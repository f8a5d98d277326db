import PreparedCql.Proofs.History

/-! What every builder keeps to, whatever calls have been made on it: names and values come in pairs,
the values of the predicates are the blocks given with them, one after another, a limit is set by a
positive count, and a keyspace stands before a table. -/

namespace PreparedCql

namespace Bindings

def Paired (bindings : Bindings) : Prop := bindings.names.length = bindings.values.length

theorem Paired.add {bindings : Bindings} (paired : bindings.Paired) (name : Text) (value : Value) :
    (bindings.add name value).Paired := by
  unfold Paired at paired ⊢
  simp only [Bindings.add, List.length_append, List.length_singleton, paired]

end Bindings

namespace Predicates

/-- The predicates are those that were given, in their order, and their values fall into the blocks
that were given with them, each with as many values as its own predicate has markers. -/
structure Blocks (given : List (Text × List Value)) (predicates : Predicates) : Prop where
  clauses : predicates.clauses = given.map Prod.fst
  values : predicates.values = (given.map Prod.snd).flatten
  counts : ∀ entry ∈ given, entry.2.length = entry.1.markers

theorem Blocks.add {given : List (Text × List Value)} {predicates : Predicates}
    (blocks : predicates.Blocks given) {clause : Text} {values : List Value}
    (count : values.length = clause.markers) :
    (predicates.add clause values).Blocks (given ++ [(clause, values)]) where
  clauses := by simp [Predicates.add, blocks.clauses]
  values := by simp [Predicates.add, blocks.values]
  counts := by
    intro entry member
    rcases List.mem_append.mp member with earlier | last
    · exact blocks.counts entry earlier
    · rw [List.mem_singleton.mp last]
      exact count

/-- A call adds a block if it adds a predicate, and then it brings a value for each marker. -/
theorem Blocks.record {given : List (Text × List Value)} {draft : Draft}
    (blocks : draft.predicates.Blocks given) {call : Call} (kept : call.isClear = false)
    (accepted : call.accepted = true) :
    (draft.record call).predicates.Blocks (given ++ call.condition?.toList) := by
  cases call with
  | clear => cases kept
  | predicate | rawPredicate => exact blocks.add (Call.values_length_of_accepted accepted rfl)
  | _ => simpa [Draft.record, Call.condition?] using blocks

end Predicates

namespace Draft

/-- What holds of every draft. The count of a limit is kept even if it sets none. -/
structure Consistent (draft : Draft) : Prop where
  inserts : draft.inserts.Paired
  assignments : draft.assignments.Paired
  options : draft.options.Paired
  limit : draft.limit.enabled = true ↔ 0 < draft.limit.count
  keyspace : draft.keyspace.isSome = true → draft.table.isSome = true

theorem consistent_empty : Consistent {} where
  inserts := rfl
  assignments := rfl
  options := rfl
  limit := by decide
  keyspace := by simp

/-- A call changes the part that it fills and keeps the others as they are. -/
theorem Consistent.record {draft : Draft} (consistent : draft.Consistent) (call : Call) :
    (draft.record call).Consistent := by
  cases call with
  | clear => exact consistent_empty
  | table => exact { consistent with keyspace := nofun }
  | qualifiedTable => exact { consistent with keyspace := fun _ => rfl }
  | limit => exact { consistent with limit := decide_eq_true_iff }
  | value column value => exact { consistent with inserts := consistent.inserts.add column value }
  | set column value =>
    exact { consistent with assignments := consistent.assignments.add column value }
  | option name value => exact { consistent with options := consistent.options.add name value }
  | field | predicate | rawPredicate | order | upsert => exact { consistent with }

end Draft

namespace Builder

/-- Every run of calls leaves a builder for the same command with a consistent draft, whose predicate
values are the lists given in the accepted predicate calls since the last clearing, block by block. -/
theorem after_consistent (command : Command) (calls : List Call) :
    ((new command).after calls).command = command ∧
      ((new command).after calls).draft.Consistent ∧
      ((new command).after calls).draft.predicates.Blocks
        ((Call.history calls).filterMap Call.condition?) := by
  apply after_induction
    (motive := fun history builder => builder.command = command ∧ builder.draft.Consistent ∧
      builder.draft.predicates.Blocks (history.filterMap Call.condition?))
  · exact ⟨rfl, Draft.consistent_empty, ⟨rfl, rfl, by simp⟩⟩
  · rintro history builder call kept accepted ⟨same, consistent, blocks⟩
    have added : [call].filterMap Call.condition? = call.condition?.toList := by
      cases given : call.condition? <;> simp [given]
    rw [List.filterMap_append, added]
    exact ⟨same, consistent.record call, blocks.record kept accepted⟩

end Builder

end PreparedCql
