import PreparedCql.Proofs.MarkerCount

/-! Statements with their values written out, as they are shown in logs. The values go where the calls
put them: a sketch has them in their places from the start, and putting the parameters back for the
markers of the finished statement gives the text of that sketch. -/

namespace PreparedCql

/-- A character as it is, or the literal of a value. -/
def Piece.inlined : Piece → Text
  | char character => [character]
  | hole value => value.literal

namespace Sketch

/-- The text with the literal of its own value in each hole. -/
def inlined (sketch : Sketch) : Text := sketch.flatMap Piece.inlined

/-- If nothing but its holes looks like a marker, a sketch gets its own values back. What a literal
brings with it is not looked at again, so the literals may hold markers. -/
theorem interpolate_erase {sketch : Sketch} (tidy : sketch.strays = 0) :
    Text.interpolate sketch.erase sketch.holes = sketch.inlined := by
  induction sketch with
  | nil => rfl
  | cons piece rest ih =>
    have split : strays (piece :: rest) = strays [piece] + strays rest := strays_append [piece] rest
    have first : strays [piece] = 0 := by omega
    have later : Text.interpolate (erase rest) (holes rest) = inlined rest := ih (by omega)
    cases piece with
    | char character =>
      have unmarked : character ≠ Text.marker := by
        rintro rfl
        cases first
      change Text.interpolate (character :: erase rest) (holes rest) = character :: inlined rest
      rw [Text.interpolate_cons_of_ne unmarked, later]
    | hole value =>
      -- The marker of this hole comes first on both sides, so the value meets its own place.
      change Text.interpolate (Text.marker :: erase rest) (value :: holes rest) =
        value.literal ++ inlined rest
      rw [Text.interpolate_marker, later]

theorem inlined_append (left right : Sketch) : inlined (left ++ right) = inlined left ++ inlined right :=
  List.flatMap_append

theorem inlined_hole_cons (value : Value) (rest : Sketch) :
    inlined (.hole value :: rest) = value.literal ++ inlined rest :=
  List.flatMap_cons

end Sketch

namespace Builder

/-- Written out, a statement whose names have no markers is the sketch of its history with the literal
of its own value in each hole. The holes hold the parameters, each of them once and in order, and a
text among them stands there between quotes, changed in nothing but that its quotes are doubled. -/
theorem interpolated_of_build (command : Command) (calls : List Call) (statement : Statement)
    (built : ((new command).after calls).build = .ok statement)
    (unmarked : ∀ name ∈ ((new command).after calls).draft.nameTexts command,
      Text.marker ∉ name) :
    statement.interpolated = (command.sketch (Call.history calls)).inlined ∧
      (command.sketch (Call.history calls)).holes = statement.params ∧
      ∀ (before after : Sketch) (content : Text),
        command.sketch (Call.history calls) = before ++ .hole (.text content) :: after →
          statement.interpolated =
            before.inlined ++ ('\'' :: content.doubleQuotes ++ ['\'']) ++ after.inlined := by
  have accepted : ∀ call ∈ Call.history calls, call.accepted = true :=
    fun _ => Call.accepted_of_mem_history
  obtain ⟨-, same⟩ := (build_eq_ok_iff _ statement).mp built
  have query : statement.query = (command.sketch (Call.history calls)).erase := by
    rw [same, after_new, command.erase_sketch]
  have params : statement.params = (command.sketch (Call.history calls)).holes := by
    rw [same, after_new, command.holes_sketch accepted]
  have tidy : (command.sketch (Call.history calls)).strays = 0 := by
    rw [after_new] at unmarked
    rw [command.strays_sketch accepted, List.sum_eq_zero_iff_forall_eq_nat, List.forall_mem_map]
    exact fun name rendered => List.count_eq_zero.mpr (unmarked name rendered)
  have whole : statement.interpolated = (command.sketch (Call.history calls)).inlined := by
    rw [Statement.interpolated, query, params, Sketch.interpolate_erase tidy]
  refine ⟨whole, params.symm, ?_⟩
  intro before after content placed
  have literal : (Value.text content).literal = '\'' :: content.doubleQuotes ++ ['\''] := by
    rw [Value.literal, Text.quoted]
  rw [whole, placed, Sketch.inlined_append, Sketch.inlined_hole_cons, literal]
  exact (List.append_assoc ..).symm

/-- A selection with a text that looks like a predicate of its own, a list that holds a marker, and
blanks both outside and inside of literals. -/
theorem interpolated_of_build_select :
    let calls : List Call := [.limit 5, .table "t".toList,
      .predicate "a  = ?".toList [.text "it's  b = ?".toList],
      .predicate "c IN (?,\n?)".toList [.list [.text "?".toList, .null], .int 7],
      .order "a?".toList, .order "d".toList]
    let statement : Statement :=
      ⟨"SELECT * FROM t WHERE a = ? AND c IN (?, ?) ORDER BY d LIMIT ?".toList,
        [.text "it's  b = ?".toList, .list [.text "?".toList, .null], .int 7, .int 5]⟩
    (((new .select).after calls).build = .ok statement ∧
      ∀ name ∈ ((new .select).after calls).draft.nameTexts .select, Text.marker ∉ name) ∧
    statement.interpolated =
      "SELECT * FROM t WHERE a = 'it''s  b = ?' AND c IN (['?', NULL], 7) ORDER BY d LIMIT 5".toList ∧
    statement.interpolated = (Command.select.sketch (Call.history calls)).inlined := by
  intro calls statement
  have built : ((new .select).after calls).build = .ok statement := rfl
  have unmarked : ∀ name ∈ ((new .select).after calls).draft.nameTexts .select,
      Text.marker ∉ name := by
    decide
  exact ⟨⟨built, unmarked⟩, by decide, (interpolated_of_build .select calls statement built unmarked).1⟩

end Builder

end PreparedCql
