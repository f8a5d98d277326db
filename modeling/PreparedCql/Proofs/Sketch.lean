import PreparedCql.Proofs.History
import PreparedCql.Proofs.Rendering
import PreparedCql.Proofs.Spacing

/-! Sketches: statements with the values themselves standing where their markers will stand. A sketch
is drawn from the calls alone, each value put down together with the text of its own call. Writing a
marker for each hole of a sketch gives the text that a draft renders, and reading its holes from left
to right gives the values that the draft binds. -/

namespace PreparedCql

/-- A character of a statement, or a value in the place of a marker. -/
inductive Piece where
  | char (character : Char)
  | hole (value : Value)

abbrev Sketch := List Piece

namespace Piece

def erase : Piece → Char
  | char character => character
  | hole _ => Text.marker

def hole? : Piece → Option Value
  | char _ => none
  | hole value => some value

/-- A hole separates no words, whatever value is in it. -/
def isBlank : Piece → Bool
  | char character => Text.isBlank character
  | hole _ => false

def isStray : Piece → Bool
  | char character => character == Text.marker
  | hole _ => false

theorem isBlank_erase (piece : Piece) : Text.isBlank piece.erase = piece.isBlank := by
  cases piece <;> rfl

end Piece

namespace Sketch

/-- A text in which nothing is bound. Question marks in it are characters like others. -/
def plain (text : Text) : Sketch := text.map .char

/-- A clause with the values in the place of its markers, from the left. -/
def fill : Text → List Value → Sketch
  | [], _ => []
  | character :: rest, [] => .char character :: fill rest []
  | character :: rest, value :: values =>
      if character = Text.marker then .hole value :: fill rest values
      else .char character :: fill rest (value :: values)

def row (separator : String) (cells : List Sketch) : Sketch :=
  (plain separator.toList).intercalate cells

/-- The text with a marker for each hole. -/
def erase (sketch : Sketch) : Text := sketch.map Piece.erase

def holes (sketch : Sketch) : List Value := sketch.filterMap Piece.hole?

/-- How many characters that bind nothing look like markers. -/
def strays (sketch : Sketch) : Nat := sketch.countP Piece.isStray

/-- One space between words, holes counting as letters. -/
def collapse (sketch : Sketch) : Sketch := Words.spaced Piece.isBlank (.char ' ') sketch

@[simp]
theorem erase_nil : erase [] = [] := rfl

@[simp]
theorem erase_hole (value : Value) : erase [.hole value] = ['?'] := rfl

@[simp]
theorem erase_append (left right : Sketch) : erase (left ++ right) = erase left ++ erase right :=
  List.map_append

@[simp]
theorem erase_plain (text : Text) : erase (plain text) = text := by
  rw [erase, plain, List.map_map]
  exact List.map_id text

@[simp]
theorem erase_row (separator : String) (cells : List Sketch) :
    erase (row separator cells) = separator.toList.intercalate (cells.map erase) := by
  rw [erase, row, Words.map_intercalate]
  exact congrArg (List.intercalate · _) (erase_plain separator.toList)

theorem erase_fill (clause : Text) (values : List Value) : erase (fill clause values) = clause := by
  induction clause generalizing values with
  | nil => rfl
  | cons character rest ih =>
    cases values with
    | nil => exact congrArg (character :: ·) (ih [])
    | cons value values =>
      rw [fill]
      split
      next marked => exact congrArg₂ List.cons marked.symm (ih values)
      next => exact congrArg (character :: ·) (ih (value :: values))

@[simp]
theorem holes_nil : holes [] = [] := rfl

@[simp]
theorem holes_hole (value : Value) : holes [.hole value] = [value] := rfl

@[simp]
theorem holes_append (left right : Sketch) : holes (left ++ right) = holes left ++ holes right :=
  List.filterMap_append

@[simp]
theorem holes_plain (text : Text) : holes (plain text) = [] := by
  rw [holes, plain, List.filterMap_map]
  exact List.filterMap_eq_nil_iff.mpr fun _ _ => rfl

@[simp]
theorem holes_row (separator : String) (cells : List Sketch) :
    holes (row separator cells) = cells.flatMap holes :=
  Words.filterMap_intercalate (holes_plain separator.toList) cells

theorem holes_row_plain {α : Type} (separator : String) (text : α → Text) (items : List α) :
    holes (row separator (items.map fun item => plain (text item))) = [] := by
  rw [holes_row, List.flatMap_map]
  exact List.flatMap_eq_nil_iff.mpr fun item _ => holes_plain (text item)

theorem holes_row_bound {draw : Text × Value → Sketch} (bound : ∀ cell, holes (draw cell) = [cell.2])
    (separator : String) (cells : List (Text × Value)) :
    holes (row separator (cells.map draw)) = cells.map Prod.snd := by
  rw [holes_row, List.flatMap_map, List.map_eq_flatMap]
  exact List.flatMap_congr fun cell _ => bound cell

/-- A clause with as many values as markers takes all of them up. -/
theorem holes_fill {clause : Text} {values : List Value} (count : values.length = clause.markers) :
    holes (fill clause values) = values := by
  induction clause generalizing values with
  | nil => exact (List.eq_nil_of_length_eq_zero count).symm
  | cons character rest ih =>
    rw [Text.markers_cons] at count
    cases values with
    | nil =>
      have unmarked : ([] : List Value).length = Text.markers rest := by
        rw [List.length_nil] at count ⊢
        omega
      exact ih unmarked
    | cons value values =>
      rw [fill]
      by_cases marked : character = Text.marker
      · rw [if_pos marked, List.length_cons] at count
        rw [if_pos marked]
        exact congrArg (value :: ·) (ih (Nat.add_right_cancel count))
      · rw [if_neg marked, Nat.add_zero] at count
        rw [if_neg marked]
        exact ih count

@[simp]
theorem strays_hole (value : Value) : strays [.hole value] = 0 := rfl

@[simp]
theorem strays_append (left right : Sketch) :
    strays (left ++ right) = strays left + strays right :=
  List.countP_append

@[simp]
theorem strays_plain (text : Text) : strays (plain text) = Text.markers text := by
  rw [strays, plain, List.countP_map]
  rfl

theorem strays_row {separator : String} (absent : Text.markers separator.toList = 0)
    (cells : List Sketch) : strays (row separator cells) = (cells.map strays).sum :=
  Words.countP_intercalate ((strays_plain separator.toList).trans absent) cells

theorem strays_row_bound {separator : String} (absent : Text.markers separator.toList = 0)
    {cells : List Sketch} (bound : ∀ cell ∈ cells, strays cell = 0) :
    strays (row separator cells) = 0 := by
  rw [strays_row absent, List.sum_eq_zero_iff_forall_eq_nat]
  exact List.forall_mem_map.mpr bound

theorem strays_row_named {α : Type} {draw : α → Sketch} {name : α → Text}
    (named : ∀ item, strays (draw item) = Text.markers (name item)) {separator : String}
    (absent : Text.markers separator.toList = 0) (items : List α) :
    strays (row separator (items.map draw)) = ((items.map name).map Text.markers).sum := by
  rw [strays_row absent, List.map_map, List.map_map]
  congr 1
  exact List.map_congr_left fun item _ => named item

/-- Every marker in the text is a hole or was there before. -/
theorem markers_erase (sketch : Sketch) :
    Text.markers (erase sketch) = (holes sketch).length + strays sketch := by
  induction sketch with
  | nil => rfl
  | cons piece rest ih =>
    have first : Text.markers (erase [piece]) = (holes [piece]).length + strays [piece] := by
      cases piece with
      | char character => exact (strays_plain [character]).symm.trans (Nat.zero_add _).symm
      | hole => rfl
    have apart : piece :: rest = [piece] ++ rest := rfl
    rw [apart, erase_append, holes_append, strays_append, Text.markers_append, List.length_append,
      first, ih]
    omega

theorem strays_fill {clause : Text} {values : List Value} (count : values.length = clause.markers) :
    strays (fill clause values) = 0 := by
  have markers := markers_erase (fill clause values)
  rw [erase_fill, holes_fill count, count] at markers
  omega

theorem erase_collapse (sketch : Sketch) : sketch.collapse.erase = sketch.erase.collapse := by
  have blank : Text.isBlank ∘ Piece.erase = Piece.isBlank := funext Piece.isBlank_erase
  rw [erase, erase, collapse, Text.collapse, ← blank]
  exact (Words.spaced_map Text.isBlank Piece.erase (.char ' ') sketch).symm

theorem holes_collapse (sketch : Sketch) : sketch.collapse.holes = sketch.holes := by
  apply Words.filterMap_spaced
  · rfl
  · intro piece blank
    cases piece with
    | char => rfl
    | hole => cases blank

theorem strays_collapse (sketch : Sketch) : sketch.collapse.strays = sketch.strays := by
  apply Words.countP_spaced
  · rfl
  · intro piece blank
    cases piece with
    | char character =>
      apply beq_false_of_ne
      rintro rfl
      cases blank
    | hole => rfl

end Sketch

end PreparedCql
