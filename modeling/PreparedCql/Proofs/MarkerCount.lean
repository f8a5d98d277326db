import PreparedCql.Proofs.Alignment

/-! How many markers a built statement has: one for each parameter, and one for each question mark in
the names that are rendered. Only predicates are checked for their markers, names are taken as they
come. -/

namespace PreparedCql

namespace Fragment

/-- The names of a fragment as the draft holds them. An empty keyspace or order is none. -/
def nameTexts (draft : Draft) : Fragment → List Text
  | field => draft.fields
  | table => (draft.keyspace.filter (· ≠ [])).toList ++ draft.table.toList
  | order => (draft.order.filter (· ≠ [])).toList
  | value => draft.inserts.names
  | set => draft.assignments.names
  | option => draft.options.names
  | predicate | limit | condition => []

open Sketch

theorem strays_sketch {calls : Fragment → List Call}
    (accepted : ∀ call ∈ calls .predicate, call.accepted = true) (fragment : Fragment) :
    (fragment.sketch calls).strays =
      ((fragment.nameTexts (.collected calls)).map Text.markers).sum := by
  cases fragment with
  | field =>
    rw [sketch, nameTexts, Draft.collected_fields]
    cases (calls .field).flatMap Call.columns with
    | nil => rfl
    | cons first rest =>
      have named := strays_row_named strays_plain (by decide : Text.markers ", ".toList = 0)
        (first :: rest)
      rw [List.map_id' (first :: rest)] at named
      exact named
  | table =>
    simp only [sketch, nameTexts, Draft.collected]
    rcases ((calls .table).filterMap Call.place?).getLast? with
      _ | ⟨_ | _ | ⟨initial, keyspace⟩, name⟩
    · rfl
    · exact strays_plain name
    · exact strays_plain name
    · have dotted : Text.markers ((initial :: keyspace) ++ '.' :: name) =
          Text.markers (initial :: keyspace) + Text.markers name := by
        rw [Text.markers_append, Text.markers_cons '.' name]
        rfl
      exact (strays_plain _).trans dotted
  | predicate =>
    rw [sketch, nameTexts]
    split
    · rfl
    · have full := Call.values_length_of_mem_conditions accepted
      rw [strays_append, strays_plain]
      refine (Nat.zero_add _).trans (strays_row_bound (by decide) (List.forall_mem_map.mpr ?_))
      exact fun condition member => strays_fill (full condition member)
  | order =>
    simp only [sketch, nameTexts, Draft.collected]
    rcases ((calls .order).filterMap Call.ordering?).getLast? with _ | _ | ⟨initial, clause⟩
    · rfl
    · rfl
    · rw [strays_plain, Text.markers_append]
      exact Nat.zero_add _
  | limit =>
    rw [sketch, nameTexts]
    split
    · rfl
    · split
      · rfl
      · rfl
  | value =>
    have names := strays_row_named (fun cell : Text × Value => strays_plain cell.1)
      (by decide : Text.markers ", ".toList = 0) ((calls .value).filterMap Call.binding?)
    have values : strays (row ", " (((calls .value).filterMap Call.binding?).map
        fun cell => [.hole cell.2])) = 0 :=
      strays_row_bound (by decide) (List.forall_mem_map.mpr fun cell _ => strays_hole cell.2)
    simp only [sketch, strays_append, strays_plain, names, values]
    exact Nat.zero_add _
  | set =>
    refine strays_row_named ?_ (by decide) _
    intro assignment
    rw [strays_append, strays_plain, Text.markers_append]
    rfl
  | option =>
    rw [sketch, nameTexts, Draft.collected_option_names]
    split
    next none =>
      rw [List.isEmpty_iff.mp none]
      rfl
    next =>
      rw [strays_append, strays_plain]
      refine (Nat.zero_add _).trans (strays_row_named ?_ (by decide) _)
      intro option
      rw [strays_append, strays_plain, Text.markers_append]
      rfl
  | condition =>
    rw [sketch, nameTexts]
    split
    · rfl
    · rfl

end Fragment

namespace Draft

/-- The names that the command's statement renders. -/
def nameTexts (draft : Draft) (command : Command) : List Text :=
  command.fragments.flatMap (·.nameTexts draft)

end Draft

theorem Command.markers_keyword {command : Command} {words : String}
    (member : .keyword words ∈ command.template) : Text.markers words.toList = 0 := by
  cases command
  all_goals
    simp only [template, List.mem_cons, Part.keyword.injEq, reduceCtorEq, List.not_mem_nil, or_false,
      false_or] at member
  case insert =>
    rw [member]
    decide
  all_goals rcases member with rfl | rfl <;> decide

theorem Part.strays_sketch {command : Command} {part : Part} (member : part ∈ command.template)
    {calls : Fragment → List Call} (accepted : ∀ call ∈ calls .predicate, call.accepted = true) :
    (part.sketch command calls).strays =
      ((part.fragment?.toList.flatMap (·.nameTexts (.collected calls))).map Text.markers).sum := by
  cases part with
  | keyword words =>
    exact (Sketch.strays_plain _).trans (Command.markers_keyword member)
  | slot fragment =>
    have drawn := Fragment.strays_sketch accepted fragment
    rw [sketch, fragment?, Option.toList_some, List.flatMap_singleton, ← drawn]
    split
    next whole =>
      -- The text that is left out is a star, so no name in it has a marker.
      have markers := Sketch.markers_erase (fragment.sketch calls)
      have star : Text.markers ['*'] = 0 := by decide
      rw [whole.2.2, star] at markers
      change 0 = _
      omega
    next => rfl

theorem Command.strays_sketch (command : Command) {history : List Call}
    (accepted : ∀ call ∈ history, call.accepted = true) :
    (command.sketch history).strays =
      (((Draft.collected (Call.grouped history)).nameTexts command).map Text.markers).sum := by
  have heard := Call.accepted_of_mem_grouped accepted .predicate
  calc
    (command.sketch history).strays
    _ = (command.template.map fun part =>
        (part.sketch command (Call.grouped history)).strays).sum := by
      rw [sketch, Sketch.strays_collapse, Sketch.strays_row (by decide), List.map_map]
      rfl
    _ = (command.template.map fun part => ((part.fragment?.toList.flatMap
        (·.nameTexts (.collected (Call.grouped history)))).map Text.markers).sum).sum := by
      congr 1
      exact List.map_congr_left fun part member => Part.strays_sketch member heard
    _ = _ := by
      rw [Draft.nameTexts, ← command.template_fragments, List.filterMap_eq_flatMap_toList,
        List.flatMap_assoc, List.map_flatMap, List.flatMap_def, List.sum_flatten, List.map_map]
      rfl

namespace Builder

/-- A built statement has a marker for each of its parameters, and one more for each question mark in
a rendered name. So it has as many markers as parameters exactly if no rendered name has one. -/
theorem markers_of_build (command : Command) (calls : List Call) (statement : Statement)
    (built : ((new command).after calls).build = .ok statement) :
    statement.query.markers = statement.params.length +
        ((((new command).after calls).draft.nameTexts command).map Text.markers).sum ∧
      (statement.query.markers = statement.params.length ↔
        ∀ name ∈ ((new command).after calls).draft.nameTexts command, Text.marker ∉ name) := by
  have accepted : ∀ call ∈ Call.history calls, call.accepted = true :=
    fun _ => Call.accepted_of_mem_history
  have count : statement.query.markers = statement.params.length +
      ((((new command).after calls).draft.nameTexts command).map Text.markers).sum := by
    obtain ⟨-, same⟩ := (build_eq_ok_iff _ statement).mp built
    rw [same, after_new, ← command.erase_sketch, ← command.holes_sketch accepted,
      Sketch.markers_erase, command.strays_sketch accepted]
  refine ⟨count, ?_⟩
  rw [count, Nat.add_eq_left, List.sum_eq_zero_iff_forall_eq_nat, List.forall_mem_map]
  exact forall₂_congr fun name _ => List.count_eq_zero

/-- A question mark in a column or in the keyspace is one marker too many; one in an option goes by
unseen, since a selection renders no options. -/
theorem markers_of_build_select :
    let calls : List Call := [.field ["a?".toList, "b".toList],
      .qualifiedTable "k?".toList "t".toList, .predicate "k = ?".toList [.int 1],
      .option "TTL?".toList (.int 2), .order "c".toList]
    let statement : Statement :=
      ⟨"SELECT a?, b FROM k?.t WHERE k = ? ORDER BY c".toList, [.int 1]⟩
    ((new .select).after calls).build = .ok statement ∧
      ((new .select).after calls).draft.nameTexts .select =
        ["a?".toList, "b".toList, "k?".toList, "t".toList, "c".toList] ∧
      statement.query.markers = statement.params.length +
        ((((new .select).after calls).draft.nameTexts .select).map Text.markers).sum ∧
      (statement.query.markers = statement.params.length ↔
        ∀ name ∈ ((new .select).after calls).draft.nameTexts .select, Text.marker ∉ name) := by
  intro calls statement
  have built : ((new .select).after calls).build = .ok statement := rfl
  exact ⟨built, rfl, markers_of_build .select calls statement built⟩

end Builder

end PreparedCql
