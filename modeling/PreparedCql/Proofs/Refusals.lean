import PreparedCql.Proofs.Runs

/-! Refused predicates. A predicate is refused for its own markers and values alone, whatever the
builder holds and whether or not its command has a place for it, and the refusal is all that comes of
it: the run goes on as if the call had not been made. -/

namespace PreparedCql

theorem Call.mismatch?_eq_some_iff {clause : Text} {values : List Value} {mismatch : Mismatch} :
    mismatch? clause values = some mismatch ↔
      clause.markers ≠ values.length ∧ mismatch = ⟨clause, clause.markers, values.length⟩ := by
  unfold mismatch?
  by_cases same : clause.markers = values.length
  · simp [same]
  · rw [if_neg same, Option.some_inj]
    exact ⟨fun equal => ⟨same, equal.symm⟩, fun both => both.2.symm⟩

namespace Step

/-- The step is a predicate that was answered by an error. -/
def isRefused (step : Step) : Bool :=
  match step.action, step.reply.outcome with
  | .call (.predicate _ _), .error _ | .call (.rawPredicate _), .error _ => true
  | _, _ => false

/-- Only calls are refused, and a refused call is a predicate. -/
theorem isRefused_call (builder : Builder) (call : Call) :
    isRefused ⟨.call call, (builder.perform (.call call)).2⟩ = call.refusal?.isSome := by
  simp only [isRefused, Builder.outcome_call]
  cases call with
  | predicate clause values => cases Call.refusal? (.predicate clause values) <;> rfl
  | rawPredicate clause => cases Call.refusal? (.rawPredicate clause) <;> rfl
  | _ => rfl

theorem isRefused_build (builder : Builder) :
    isRefused ⟨.build, (builder.perform .build).2⟩ = false := rfl

end Step

namespace Builder

theorem next_of_refusal {call : Call} {mismatch : Mismatch} (refused : call.refusal? = some mismatch)
    (builder : Builder) : builder.next call = builder := by
  rw [next_eq, Call.accepted, refused]
  rfl

/-- A refused step leaves the builder as it was. -/
theorem perform_of_isRefused {builder : Builder} {action : Action}
    (refused : Step.isRefused ⟨action, (builder.perform action).2⟩ = true) :
    (builder.perform action).1 = builder := by
  cases action with
  | build => rfl
  | call call =>
    rw [Step.isRefused_call] at refused
    obtain ⟨mismatch, refusal⟩ := Option.isSome_iff_exists.mp refused
    exact next_of_refusal refusal builder

/-- Warnings tell of refusals and of nothing else. -/
theorem events_perform_not_warn (builder : Builder) (action : Action) :
    (builder.perform action).2.events.filter (·.level != .warn) =
      if Step.isRefused ⟨action, (builder.perform action).2⟩ then []
      else (builder.perform action).2.events := by
  cases action with
  | build =>
    rw [Step.isRefused_build]
    unfold perform buildEvents
    cases builder.build with
    | ok statement => rfl
    | error error => rfl
  | call call =>
    rw [Step.isRefused_call]
    change (builder.callEvents call).filter _ = if _ then [] else builder.callEvents call
    unfold callEvents
    cases call.refusal? with
    | some mismatch => rfl
    | none =>
      cases call with
      | table | qualifiedTable | clear => rfl
      | _ =>
        simp only [Call.fragment?]
        split
        · rfl
        · rfl

theorem flatMap_events_trace (builder : Builder) (actions : List Action) :
    ((builder.trace actions).filter (!·.isRefused)).flatMap (·.reply.events) =
      ((builder.trace actions).flatMap (·.reply.events)).filter (·.level != .warn) := by
  induction actions generalizing builder with
  | nil => rfl
  | cons action actions ih =>
    rw [trace_cons, List.flatMap_cons, List.filter_append, ← ih, events_perform_not_warn]
    cases refused : Step.isRefused ⟨action, (builder.perform action).2⟩ with
    | true => simp [refused]
    | false => simp [refused]

theorem apply_predicate_eq_error_iff {builder : Builder} {clause : Text} {values : List Value}
    {error : BuildError} :
    builder.apply (.predicate clause values) = .error error ↔
      clause.markers ≠ values.length ∧
        error = .markerMismatch ⟨clause, clause.markers, values.length⟩ := by
  rw [apply_eq_error_iff]
  constructor
  · rintro ⟨mismatch, refused, rfl⟩
    obtain ⟨differ, rfl⟩ := Call.mismatch?_eq_some_iff.mp refused
    exact ⟨differ, rfl⟩
  · rintro ⟨differ, rfl⟩
    exact ⟨_, Call.mismatch?_eq_some_iff.mpr ⟨differ, rfl⟩, rfl⟩

theorem callEvents_of_refusal {call : Call} {mismatch : Mismatch}
    (refused : call.refusal? = some mismatch) (builder : Builder) :
    builder.callEvents call = [.rejected mismatch] := by
  unfold callEvents
  rw [refused]

/-- Refused steps can be left out, since the builder after each of them is the one before it. -/
theorem trace_without_refused (builder : Builder) (actions : List Action) :
    let kept := (builder.trace actions).filter (!·.isRefused)
    builder.trace (kept.map Step.action) = kept ∧
      (builder.run (kept.map Step.action)).1 = (builder.run actions).1 := by
  intro kept
  have thinned : Thinned (fun step => step.isRefused = true) (builder.trace actions) kept := by
    apply Thinned.filter
    intro step _ dropped
    simpa using dropped
  have both : ∀ {first second : Builder} (action : Action), first = second →
      (first.perform action).1 = (second.perform action).1 ∧
        (first.perform action).2 = (second.perform action).2 := by
    rintro first _ action rfl
    exact ⟨rfl, rfl⟩
  have alone : ∀ {first second : Builder} (action : Action), first = second →
      Step.isRefused ⟨action, (first.perform action).2⟩ = true →
        (first.perform action).1 = second := by
    rintro first _ action rfl refused
    exact perform_of_isRefused refused
  obtain ⟨same, last⟩ := trace_thinned both alone rfl thinned
  exact ⟨same, last.symm⟩

/-- A predicate without values answers as it does with an empty list of them. -/
theorem perform_rawPredicate (builder : Builder) (clause : Text) :
    builder.perform (.call (.rawPredicate clause)) =
      builder.perform (.call (.predicate clause [])) := rfl

/-- A predicate is refused exactly if it has more or fewer values than markers, by an error and by one
warning that both name the clause and the two counts. Leaving out all refused predicates of a run
gives the same builder, the same answers and the same events but for these warnings, and a predicate
without values can stand anywhere for one with an empty list of them. -/
theorem refusals_leave_no_trace (builder : Builder) :
    (∀ (clause : Text) (values : List Value),
      (∀ error, builder.apply (.predicate clause values) = .error error ↔
        clause.markers ≠ values.length ∧
          error = .markerMismatch ⟨clause, clause.markers, values.length⟩) ∧
      (clause.markers ≠ values.length →
        ∃ event, (builder.perform (.call (.predicate clause values))).2.events = [event] ∧
          event.level = .warn ∧ event.message = "rejected where clause" ∧
          event.fields = [("clause", .text clause), ("placeholders", .count clause.markers),
            ("values", .count values.length)])) ∧
    (∀ actions : List Action,
      let kept := (builder.trace actions).filter (!·.isRefused)
      builder.trace (kept.map Step.action) = kept ∧
        (builder.run (kept.map Step.action)).1 = (builder.run actions).1 ∧
        kept.flatMap (·.reply.events) =
          ((builder.trace actions).flatMap (·.reply.events)).filter (·.level != .warn)) ∧
    ∀ (before after : List Action) (clause : Text),
      builder.run (before ++ .call (.rawPredicate clause) :: after) =
        builder.run (before ++ .call (.predicate clause []) :: after) := by
  refine ⟨?_, ?_, ?_⟩
  · intro clause values
    refine ⟨fun error => apply_predicate_eq_error_iff, ?_⟩
    intro differ
    have refused : Call.refusal? (.predicate clause values) =
        some ⟨clause, clause.markers, values.length⟩ :=
      Call.mismatch?_eq_some_iff.mpr ⟨differ, rfl⟩
    exact ⟨_, callEvents_of_refusal refused builder, rfl, rfl, rfl⟩
  · intro actions kept
    obtain ⟨same, last⟩ := trace_without_refused builder actions
    exact ⟨same, last, flatMap_events_trace builder actions⟩
  · intro before after clause
    rw [run_append, run_append, run_cons, run_cons, perform_rawPredicate]

/-- An insertion has no place for predicates and still refuses one that lacks a value. -/
theorem refusals_leave_no_trace_insert :
    let clause := "k IN (?,  ?)".toList
    let values : List Value := [.text "?".toList]
    Text.markers clause ≠ values.length ∧
      ∃ event, (insert.perform (.call (.predicate clause values))).2.events = [event] ∧
        event.level = .warn ∧ event.message = "rejected where clause" ∧
        event.fields = [("clause", .text clause), ("placeholders", .count 2),
          ("values", .count 1)] := by
  intro clause values
  have differ : Text.markers clause ≠ values.length := by decide
  exact ⟨differ, ((refusals_leave_no_trace insert).1 clause values).2 differ⟩

end Builder

end PreparedCql
