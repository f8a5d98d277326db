import PreparedCql.Proofs.Interpolation

/-! Interpolation, told from the segments between the markers. The segments stay as they are, and each
marker gives way to the literal of the value at its own place, or stays if there is none. What stands
for a marker is not looked at again, so two texts can be interpolated one after the other. -/

namespace PreparedCql.Text

/-- What stands for the marker at a place: the literal of its value, or the marker if it has none. -/
def replacement (values : List Value) (place : Nat) : Text :=
  (values[place]?.map Value.literal).getD [marker]

theorem replacement_succ (values : List Value) (place : Nat) :
    replacement values (place + 1) = replacement values.tail place := by
  rw [replacement, replacement, List.getElem?_tail]

theorem interpolate_marker_cons (rest : Text) (values : List Value) :
    interpolate (marker :: rest) values = replacement values 0 ++ interpolate rest values.tail := by
  cases values with
  | nil => rfl
  | cons value values => exact interpolate_marker rest value values

theorem interpolate_of_plain {text : Text} (plain : marker ∉ text) (values : List Value) :
    interpolate text values = text := by
  induction text with
  | nil => rfl
  | cons character rest ih =>
    have other : character ≠ marker := (List.ne_of_not_mem_cons plain).symm
    rw [interpolate_cons_of_ne other, ih (List.not_mem_of_not_mem_cons plain)]

/-- The segments of a text stay and its markers are replaced, each by what stands for its own place. -/
theorem interpolate_intercalate {first : Text} {rest : List Text}
    (plain : ∀ segment ∈ first :: rest, marker ∉ segment) (values : List Value) :
    interpolate ([marker].intercalate (first :: rest)) values =
      first ++ (rest.mapIdx fun place segment => replacement values place ++ segment).flatten := by
  induction rest generalizing first values with
  | nil =>
    rw [List.intercalate_singleton, interpolate_of_plain (plain first List.mem_cons_self)]
    exact (List.append_nil first).symm
  | cons second others ih =>
    obtain ⟨head, tail⟩ := List.forall_mem_cons.mp plain
    have unmarked : first.markers = 0 := List.count_eq_zero.mpr head
    -- The first segment takes no value and the marker behind it takes one, so later places shift.
    rw [List.intercalate_cons_cons, List.append_assoc, List.singleton_append, interpolate_append,
      interpolate_of_plain head, unmarked, List.drop_zero, interpolate_marker_cons, ih tail,
      List.mapIdx_cons, List.flatten_cons, List.append_assoc]
    simp only [replacement_succ]

/-- Values behind those for the last marker are not looked at. -/
theorem interpolate_take (text : Text) (values : List Value) :
    interpolate text (values.take text.markers) = interpolate text values := by
  induction text generalizing values with
  | nil => rfl
  | cons character rest ih =>
    rw [markers_cons]
    by_cases marked : character = marker
    · cases values with
      | nil => rw [List.take_nil]
      | cons value values =>
        rw [if_pos marked, List.take_succ_cons, marked, interpolate_marker, interpolate_marker, ih]
    · rw [if_neg marked, Nat.add_zero, interpolate_cons_of_ne marked, interpolate_cons_of_ne marked, ih]

/-- Of two texts in a row the second gets the values that the markers of the first leave over. Told
from its segments, a text keeps all of them and has what stands for its own place between two of them,
so values without a marker have no effect, and once the values are used up the text stays as it is. -/
theorem interpolate_left_to_right :
    (∀ (left right : Text) (values : List Value), interpolate (left ++ right) values =
      interpolate left values ++ interpolate right (values.drop left.markers)) ∧
    (∀ (first : Text) (rest : List Text) (values : List Value),
      (∀ segment ∈ first :: rest, marker ∉ segment) →
      interpolate ([marker].intercalate (first :: rest)) values =
        first ++ (rest.mapIdx fun place segment => replacement values place ++ segment).flatten) ∧
    (∀ (text : Text) (values : List Value),
      interpolate text (values.take text.markers) = interpolate text values) ∧
    ∀ (left right : Text) (values : List Value), values.length ≤ left.markers →
      interpolate (left ++ right) values = interpolate left values ++ right := by
  refine ⟨interpolate_append, ?_, interpolate_take, ?_⟩
  · intro first rest values plain
    exact interpolate_intercalate plain values
  · intro left right values short
    rw [interpolate_append, List.drop_eq_nil_of_le short, interpolate_nil]

/-- Two markers side by side and one at the end, a marker in the first literal, and no third value. -/
theorem interpolate_left_to_right_short :
    let first : Text := "a IN (".toList
    let rest : List Text := [[], ") AND b = ".toList, []]
    let values : List Value := [.text "?'".toList, .int 2]
    (∀ segment ∈ first :: rest, marker ∉ segment) ∧
      interpolate ([marker].intercalate (first :: rest)) values =
        first ++ (rest.mapIdx fun place segment => replacement values place ++ segment).flatten ∧
      interpolate ([marker].intercalate (first :: rest)) values =
        "a IN ('?'''2) AND b = ?".toList ∧
      (values.length ≤ Text.markers "a IN (??".toList ∧
        interpolate ("a IN (??".toList ++ ") AND b = ?".toList) values =
          interpolate "a IN (??".toList values ++ ") AND b = ?".toList) := by
  intro first rest values
  have plain : ∀ segment ∈ first :: rest, marker ∉ segment := by decide
  have short : values.length ≤ Text.markers "a IN (??".toList := by decide
  exact ⟨plain, interpolate_left_to_right.2.1 first rest values plain, by decide, short,
    interpolate_left_to_right.2.2.2 _ _ values short⟩

end PreparedCql.Text
