import PreparedCql.Value.Literal

/-! Markers stand in the text of a statement for the values that are bound to it. Every question mark
is one, inside quotes too. -/

namespace PreparedCql.Text

def marker : Char := '?'

/-- How many values the text asks for. -/
def markers (text : Text) : Nat := text.count marker

/-- The text with its markers replaced, from the left, by the literals of the values. Markers without
a value stay, values without a marker are left over, and what was put in is not looked at again. -/
def interpolate : Text → List Value → Text
  | [], _ => []
  | character :: rest, [] => character :: interpolate rest []
  | character :: rest, value :: values =>
      if character = marker then value.literal ++ interpolate rest values
      else character :: interpolate rest (value :: values)

theorem interpolate_nil (text : Text) : interpolate text [] = text := by
  induction text with
  | nil => rfl
  | cons character rest ih => rw [interpolate, ih]

theorem interpolate_marker (rest : Text) (value : Value) (values : List Value) :
    interpolate (marker :: rest) (value :: values) = value.literal ++ interpolate rest values :=
  if_pos rfl

theorem interpolate_cons_of_ne {character : Char} (other : character ≠ marker) (rest : Text)
    (values : List Value) :
    interpolate (character :: rest) values = character :: interpolate rest values := by
  cases values with
  | nil => rfl
  | cons value values => exact if_neg other

theorem markers_cons (character : Char) (rest : Text) :
    markers (character :: rest) = markers rest + if character = marker then 1 else 0 := by
  simp only [markers, List.count_cons, beq_iff_eq]

theorem markers_append (left right : Text) : markers (left ++ right) = markers left + markers right :=
  List.count_append

end PreparedCql.Text
