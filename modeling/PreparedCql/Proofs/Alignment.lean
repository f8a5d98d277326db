import PreparedCql.Proofs.Sketch

/-! The markers of a built statement and its parameters belong together: the statement is the sketch
drawn from the history with markers written for its holes, and its parameters are what the holes hold. -/

namespace PreparedCql

namespace Fragment

open Sketch

/-- The fragment as the calls that fill it describe it, each value beside the text of its own call. -/
def sketch (calls : Fragment → List Call) : Fragment → Sketch
  | field =>
      let names := (calls .field).flatMap Call.columns
      if names.isEmpty then plain ['*'] else row ", " (names.map plain)
  | table =>
      match ((calls .table).filterMap Call.place?).getLast? with
      | none => []
      | some (none, name) | some (some [], name) => plain name
      | some (some keyspace, name) => plain (keyspace ++ '.' :: name)
  | predicate =>
      let conditions := (calls .predicate).filterMap Call.condition?
      if conditions.isEmpty then []
      else plain "WHERE ".toList ++
        row " AND " (conditions.map fun condition => fill condition.1 condition.2)
  | order =>
      match ((calls .order).filterMap Call.ordering?).getLast? with
      | none | some [] => []
      | some clause => plain ("ORDER BY ".toList ++ clause)
  | limit =>
      match ((calls .limit).filterMap Call.count?).getLast? with
      | none => []
      | some count => if 0 < count then plain "LIMIT ".toList ++ [.hole (.int count)] else []
  | value =>
      let cells := (calls .value).filterMap Call.binding?
      plain ['('] ++ row ", " (cells.map fun cell => plain cell.1) ++ plain ") VALUES (".toList ++
        row ", " (cells.map fun cell => [.hole cell.2]) ++ plain [')']
  | set =>
      row ", " (((calls .set).filterMap Call.binding?).map fun assignment =>
        plain (assignment.1 ++ " = ".toList) ++ [.hole assignment.2])
  | option =>
      let options := (calls .option).filterMap Call.binding?
      if options.isEmpty then []
      else plain "USING ".toList ++
        row " AND " (options.map fun option => plain (option.1 ++ [' ']) ++ [.hole option.2])
  | condition =>
      if ((calls .condition).filterMap Call.flag?).getLast? = some true then []
      else plain "IF EXISTS".toList

theorem erase_sketch (calls : Fragment → List Call) (fragment : Fragment) :
    (fragment.sketch calls).erase = fragment.text (.collected calls) := by
  cases fragment with
  | field =>
    rw [sketch, text, Draft.collected_fields]
    cases (calls .field).flatMap Call.columns with
    | nil => rfl
    | cons => simp [Function.comp_def]
  | table =>
    simp only [sketch, text, Draft.keyspaceName?, Draft.collected]
    rcases ((calls .table).filterMap Call.place?).getLast? with
      _ | ⟨_ | _ | ⟨initial, keyspace⟩, name⟩
    · rfl
    · exact erase_plain name
    · exact erase_plain name
    · exact erase_plain _
  | predicate =>
    rw [sketch, text, Draft.collected_clauses]
    cases (calls .predicate).filterMap Call.condition? with
    | nil => rfl
    | cons => simp [erase_fill, Function.comp_def]
  | order =>
    simp only [sketch, text, Draft.orderClause?, Draft.collected]
    rcases ((calls .order).filterMap Call.ordering?).getLast? with _ | _ | ⟨initial, clause⟩
    · rfl
    · rfl
    · exact erase_plain _
  | limit =>
    rw [sketch, text, Draft.collected_limit]
    cases ((calls .limit).filterMap Call.count?).getLast? with
    | none => rfl
    | some count => by_cases positive : 0 < count <;> simp [RowLimit.ofCount, positive]
  | value => simp [sketch, text, Draft.collected, Bindings.collected, Function.comp_def]
  | set => simp [sketch, text, Draft.collected, Bindings.collected, Function.comp_def]
  | option =>
    rw [sketch, text, Draft.collected_option_names]
    cases (calls .option).filterMap Call.binding? with
    | nil => rfl
    | cons => simp [Function.comp_def]
  | condition =>
    rw [sketch, text, Draft.collected_upsert]
    rcases ((calls .condition).filterMap Call.flag?).getLast? with _ | _ | _
    all_goals rfl

theorem holes_sketch {calls : Fragment → List Call}
    (accepted : ∀ call ∈ calls .predicate, call.accepted = true) (fragment : Fragment) :
    (fragment.sketch calls).holes = fragment.bound (.collected calls) := by
  cases fragment with
  | field =>
    rw [sketch, bound]
    split
    · exact holes_plain _
    · exact holes_row_plain ", " id _
  | table =>
    rw [sketch, bound]
    split
    · rfl
    · exact holes_plain _
    · exact holes_plain _
    · exact holes_plain _
  | predicate =>
    have full := Call.values_length_of_mem_conditions accepted
    rw [sketch, bound]
    simp only [Draft.collected, Predicates.collected]
    split
    next none => simp [List.isEmpty_iff.mp none]
    next =>
      rw [holes_append, holes_plain, List.nil_append, holes_row, List.flatMap_map]
      exact List.flatMap_congr fun condition member => holes_fill (full condition member)
  | order =>
    rw [sketch, bound]
    split
    · rfl
    · rfl
    · exact holes_plain _
  | limit =>
    rw [sketch, bound, Draft.collected_limit]
    cases ((calls .limit).filterMap Call.count?).getLast? with
    | none => rfl
    | some count => by_cases positive : 0 < count <;> simp [RowLimit.ofCount, positive]
  | value =>
    simp only [sketch, holes_append, holes_plain, holes_row_plain, List.nil_append, List.append_nil]
    exact holes_row_bound (fun _ => rfl) ", " _
  | set => exact holes_row_bound (by simp) ", " _
  | option =>
    rw [sketch, bound, Draft.collected_option_values]
    split
    next none => simp [List.isEmpty_iff.mp none]
    next =>
      rw [holes_append, holes_plain, List.nil_append]
      exact holes_row_bound (by simp) " AND " _
  | condition =>
    rw [sketch, bound]
    split
    · rfl
    · exact holes_plain _

end Fragment

namespace Part

/-- What a part of the template shows of the calls. A deletion of all columns names none. -/
def sketch (command : Command) (calls : Fragment → List Call) : Part → Sketch
  | keyword words => .plain words.toList
  | slot fragment =>
      let drawn := fragment.sketch calls
      if command = .delete ∧ fragment = .field ∧ drawn.erase = ['*'] then [] else drawn

theorem erase_sketch (command : Command) (calls : Fragment → List Call) (part : Part) :
    (part.sketch command calls).erase = part.text command (.collected calls) := by
  cases part with
  | keyword words => exact Sketch.erase_plain _
  | slot fragment =>
    rw [sketch, text, Command.shown, ← Fragment.erase_sketch]
    split
    · rfl
    · rfl

/-- Leaving the columns of a deletion out loses no value. -/
theorem holes_sketch (command : Command) {calls : Fragment → List Call}
    (accepted : ∀ call ∈ calls .predicate, call.accepted = true) (part : Part) :
    (part.sketch command calls).holes =
      part.fragment?.toList.flatMap (·.bound (.collected calls)) := by
  cases part with
  | keyword words => exact Sketch.holes_plain _
  | slot fragment =>
    rw [sketch, fragment?, Option.toList_some, List.flatMap_singleton]
    split
    next whole =>
      rw [whole.2.1]
      rfl
    next => exact Fragment.holes_sketch accepted fragment

end Part

namespace Command

/-- The statement that a history describes: the template, drawn from the calls for each fragment. -/
def sketch (command : Command) (history : List Call) : Sketch :=
  Sketch.collapse
    (Sketch.row " " (command.template.map (Part.sketch command (Call.grouped history))))

theorem erase_sketch (command : Command) (history : List Call) :
    (command.sketch history).erase = (Draft.collected (Call.grouped history)).query command := by
  rw [sketch, Sketch.erase_collapse, Sketch.erase_row, Draft.query, Draft.render_slots, List.map_map]
  congr 2
  exact List.map_congr_left fun part _ => Part.erase_sketch command _ part

theorem holes_sketch (command : Command) {history : List Call}
    (accepted : ∀ call ∈ history, call.accepted = true) :
    (command.sketch history).holes = (Draft.collected (Call.grouped history)).params command := by
  have heard := Call.accepted_of_mem_grouped accepted .predicate
  calc
    (command.sketch history).holes
    _ = command.template.flatMap fun part => (part.sketch command (Call.grouped history)).holes := by
      rw [sketch, Sketch.holes_collapse, Sketch.holes_row, List.flatMap_map]
    _ = command.template.flatMap fun part =>
        part.fragment?.toList.flatMap (·.bound (.collected (Call.grouped history))) :=
      List.flatMap_congr fun part _ => Part.holes_sketch command heard part
    _ = (Draft.collected (Call.grouped history)).params command := by
      rw [Draft.params, ← command.template_fragments, List.filterMap_eq_flatMap_toList,
        List.flatMap_assoc]

end Command

namespace Builder

/-- Whatever is built is what the history describes: the query is the sketch with its holes written
as markers, and the parameters are the values of these holes from left to right. -/
theorem build_eq_sketch (command : Command) (calls : List Call) (statement : Statement)
    (built : ((new command).after calls).build = .ok statement) :
    statement.query = (command.sketch (Call.history calls)).erase ∧
      statement.params = (command.sketch (Call.history calls)).holes := by
  have accepted : ∀ call ∈ Call.history calls, call.accepted = true :=
    fun _ => Call.accepted_of_mem_history
  obtain ⟨-, same⟩ := (build_eq_ok_iff _ statement).mp built
  rw [same, after_new, command.erase_sketch, command.holes_sketch accepted]
  exact ⟨rfl, rfl⟩

/-- An update whose names have question marks of their own, with a refused predicate and a clearing on
the way. -/
theorem build_eq_sketch_update :
    let calls : List Call := [.option "TTL".toList (.int 1), .clear, .table "t?".toList,
      .set "a?".toList (.text "x".toList), .predicate "k  IN (?, ?)".toList [.int 2, .null],
      .predicate "j = ?".toList [], .limit 3, .option "TTL".toList (.int 9)]
    let statement : Statement :=
      ⟨"UPDATE t? USING TTL ? SET a? = ? WHERE k IN (?, ?) IF EXISTS".toList,
        [.int 9, .text "x".toList, .int 2, .null]⟩
    ((new .update).after calls).build = .ok statement ∧
      statement.query = (Command.update.sketch (Call.history calls)).erase ∧
      statement.params = (Command.update.sketch (Call.history calls)).holes := by
  intro calls statement
  have built : ((new .update).after calls).build = .ok statement := rfl
  exact ⟨built, build_eq_sketch .update calls statement built⟩

end Builder

end PreparedCql
