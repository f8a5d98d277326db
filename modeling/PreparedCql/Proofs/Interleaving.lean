import PreparedCql.Proofs.History

/-! Calls for different fragments do not disturb each other, so how they are interleaved makes no
difference to a builder or to anything that is built from it. -/

namespace PreparedCql

namespace Call

theorem place?_grouped_history (calls : List Call) :
    (grouped (history calls) .table).filterMap place? = (recent calls).filterMap place? := by
  rw [grouped, history, List.filter_filter, List.filterMap_filter]
  congr 1
  funext call
  cases call <;> rfl

end Call

namespace Builder

theorem build_eq_missingTable_iff (builder : Builder) :
    builder.build = .error .missingTable ↔ builder.draft.tableName? = none := by
  cases name : builder.draft.tableName? <;> simp [build, name]

/-- The order of calls for different fragments never matters: the builder is made up of the calls
since the last clearing, taken apart by the fragments that they fill, so two runs that agree on
each fragment give one builder and go on alike. In particular a table is missing exactly if no call
named one or the last such call gave it no name. -/
theorem after_determined_by_groups (command : Command) :
    (∀ first second : List Call,
      (∀ fragment, Call.grouped (Call.recent first) fragment =
        Call.grouped (Call.recent second) fragment) →
      (new command).after first = (new command).after second ∧
        ∀ actions, ((new command).after first).run actions =
          ((new command).after second).run actions) ∧
    (∀ calls : List Call, (new command).after calls =
      { command := command, draft := .collected (Call.grouped (Call.history calls)) }) ∧
    ∀ calls : List Call, ((new command).after calls).build = .error .missingTable ↔
      ((Call.recent calls).filterMap Call.place?).getLast? = none ∨
        ∃ keyspace, ((Call.recent calls).filterMap Call.place?).getLast? = some (keyspace, []) := by
  refine ⟨?_, after_new command, ?_⟩
  · intro first second same
    have groups : Call.grouped (Call.history first) = Call.grouped (Call.history second) := by
      funext fragment
      rw [Call.grouped_history, Call.grouped_history, same fragment]
    have builders : (new command).after first = (new command).after second := by
      rw [after_new, after_new, groups]
    exact ⟨builders, fun actions => by rw [builders]⟩
  · intro calls
    rw [build_eq_missingTable_iff, after_new, Draft.tableName?, Draft.collected,
      Call.place?_grouped_history]
    cases last : ((Call.recent calls).filterMap Call.place?).getLast? with
    | none => simp
    | some place => cases place; simp

/-- Two updates with the same calls for each fragment, one of them after a clearing, with a refused
predicate between the others. -/
theorem after_determined_by_groups_update :
    let first : List Call := [.set "a".toList (.int 1), .predicate "k = ?".toList [],
      .predicate "k = ?".toList [.int 2], .upsert true, .table "s".toList,
      .qualifiedTable "ks".toList "t".toList, .upsert false]
    let second : List Call := [.field ["x".toList], .clear, .upsert true, .table "s".toList,
      .qualifiedTable "ks".toList "t".toList, .predicate "k = ?".toList [], .upsert false,
      .predicate "k = ?".toList [.int 2], .set "a".toList (.int 1)]
    (∀ fragment, Call.grouped (Call.recent first) fragment =
        Call.grouped (Call.recent second) fragment) ∧
      (new .update).after first = (new .update).after second ∧
      ∀ actions, ((new .update).after first).run actions = ((new .update).after second).run actions := by
  intro first second
  have same : ∀ fragment, Call.grouped (Call.recent first) fragment =
      Call.grouped (Call.recent second) fragment := by
    intro fragment
    cases fragment <;> rfl
  exact ⟨same, (after_determined_by_groups .update).1 first second same⟩

end Builder

end PreparedCql
