import PreparedCql.Proofs.Rendering
import PreparedCql.Proofs.Runs

/-! Calls that a command ignores. They are recorded in the draft all the same, but in parts that no
statement of the command shows, so a builder that has heard them and one that has not stay alike. -/

namespace PreparedCql

namespace Fragment

/-- Both drafts hold the same for the fragment. -/
def Same (first second : Draft) : Fragment → Prop
  | field => first.fields = second.fields
  | table => first.keyspace = second.keyspace ∧ first.table = second.table
  | predicate => first.predicates = second.predicates
  | order => first.order = second.order
  | limit => first.limit = second.limit
  | value => first.inserts = second.inserts
  | set => first.assignments = second.assignments
  | option => first.options = second.options
  | condition => first.upsert = second.upsert

theorem Same.refl (draft : Draft) (fragment : Fragment) : fragment.Same draft draft := by
  cases fragment with
  | table => exact ⟨rfl, rfl⟩
  | _ => rfl

theorem Same.trans {fragment : Fragment} {first second third : Draft}
    (left : fragment.Same first second) (right : fragment.Same second third) :
    fragment.Same first third := by
  cases fragment with
  | table => exact ⟨left.1.trans right.1, left.2.trans right.2⟩
  | _ => exact Eq.trans left right

theorem Same.text {fragment : Fragment} {first second : Draft} (same : fragment.Same first second) :
    fragment.text first = fragment.text second := by
  cases fragment with
  | table =>
    obtain ⟨keyspace, table⟩ := same
    simp only [Fragment.text, Draft.keyspaceName?, keyspace, table]
  | order =>
    unfold Same at same
    simp only [Fragment.text, Draft.orderClause?, same]
  | _ =>
    unfold Same at same
    simp only [Fragment.text, same]

theorem Same.bound {fragment : Fragment} {first second : Draft}
    (same : fragment.Same first second) : fragment.bound first = fragment.bound second := by
  cases fragment with
  | field | table | order | condition => rfl
  | _ =>
    unfold Same at same
    simp only [Fragment.bound, same]

/-- A call keeps every part of a draft but the one that it fills. -/
theorem same_record_of_ne {call : Call} {filled fragment : Fragment}
    (fills : call.fragment? = some filled) (other : fragment ≠ filled) (draft : Draft) :
    fragment.Same (draft.record call) draft := by
  cases call with
  | table | qualifiedTable | clear => cases fills
  | _ =>
    cases fills
    revert other
    cases fragment <;> simp [Same, Draft.record]

/-- What a call makes of a part of a draft depends on nothing but this part. -/
theorem Same.record {fragment : Fragment} {first second : Draft}
    (same : fragment.Same first second) (call : Call) :
    fragment.Same (first.record call) (second.record call) := by
  -- A clearing makes both drafts new. Every other call changes one part and passes the rest on.
  cases call with
  | clear => exact .refl {} fragment
  | table | qualifiedTable =>
    cases fragment with
    | table => exact ⟨rfl, rfl⟩
    | _ => exact same
  | field names =>
    cases fragment with
    | field => exact congrArg (· ++ names) same
    | _ => exact same
  | predicate clause values =>
    cases fragment with
    | predicate => exact congrArg (Predicates.add · clause values) same
    | _ => exact same
  | rawPredicate clause =>
    cases fragment with
    | predicate => exact congrArg (Predicates.add · clause []) same
    | _ => exact same
  | order =>
    cases fragment with
    | order => rfl
    | _ => exact same
  | limit =>
    cases fragment with
    | limit => rfl
    | _ => exact same
  | value column value =>
    cases fragment with
    | value => exact congrArg (Bindings.add · column value) same
    | _ => exact same
  | set column value =>
    cases fragment with
    | set => exact congrArg (Bindings.add · column value) same
    | _ => exact same
  | option name value =>
    cases fragment with
    | option => exact congrArg (Bindings.add · name value) same
    | _ => exact same
  | upsert =>
    cases fragment with
    | condition => rfl
    | _ => exact same

end Fragment

namespace Builder

/-- Builders for one command that hold the same for every fragment that it uses. -/
structure Alike (first second : Builder) : Prop where
  command : first.command = second.command
  drafts : ∀ fragment ∈ first.command.fragments, fragment.Same first.draft second.draft

theorem Alike.refl (builder : Builder) : builder.Alike builder where
  command := rfl
  drafts := fun fragment _ => .refl builder.draft fragment

/-- A statement shows nothing but the fragments that its command uses, and the table is among them. -/
theorem Alike.build {first second : Builder} (alike : first.Alike second) :
    first.build = second.build := by
  have table : Fragment.table.Same first.draft second.draft := by
    apply alike.drafts
    have used : first.command.fragments.contains .table = true := first.command.uses_table
    exact List.contains_iff_mem.mp used
  have name : first.draft.tableName? = second.draft.tableName? := by
    rw [Draft.tableName?, Draft.tableName?, table.2]
  have query : first.draft.query first.command = second.draft.query first.command :=
    Draft.query_congr fun fragment used => (alike.drafts fragment used).text
  have params : first.draft.params first.command = second.draft.params first.command :=
    Draft.params_congr fun fragment used => (alike.drafts fragment used).bound
  rw [Builder.build, Builder.build, name, query, params, alike.command]

theorem Alike.next {first second : Builder} (alike : first.Alike second) (call : Call) :
    (first.next call).Alike (second.next call) :=
  next_related alike rfl
    ⟨alike.command, fun fragment used => (alike.drafts fragment used).record call⟩

theorem Alike.perform {first second : Builder} (action : Action) (alike : first.Alike second) :
    (first.perform action).1.Alike (second.perform action).1 ∧
      (first.perform action).2 = (second.perform action).2 := by
  refine ⟨?_, reply_perform_congr alike.command alike.build action⟩
  cases action with
  | call call => exact alike.next call
  | build => exact alike

theorem callEvents_of_fragment {call : Call} {fragment : Fragment}
    (accepted : call.refusal? = none) (fills : call.fragment? = some fragment) (builder : Builder) :
    builder.callEvents call =
      if fragment ∈ builder.command.fragments then [] else [.ignored builder.command fragment] := by
  unfold callEvents
  rw [accepted]
  cases call with
  | clear => cases fills
  | _ => simp only [fills, Command.uses, List.contains_iff_mem]

/-- A call is reported as ignored exactly if it is accepted and its fragment is not one of those that
the command uses. -/
theorem ignored_mem_callEvents_iff {builder : Builder} {call : Call} {command : Command}
    {fragment : Fragment} :
    .ignored command fragment ∈ builder.callEvents call ↔
      call.refusal? = none ∧ command = builder.command ∧ call.fragment? = some fragment ∧
        fragment ∉ builder.command.fragments := by
  cases refusal : call.refusal? with
  | some mismatch => simp [callEvents, refusal]
  | none =>
    cases fills : call.fragment? with
    | none =>
      cases call with
      | table | qualifiedTable | clear => simp [callEvents, refusal, fills]
      | _ => cases fills
    | some filled =>
      rw [callEvents_of_fragment refusal fills]
      by_cases used : filled ∈ builder.command.fragments
      · rw [if_pos used]
        constructor
        · intro reported
          cases reported
        · rintro ⟨-, -, same, unused⟩
          cases same
          exact absurd used unused
      · rw [if_neg used, List.mem_singleton]
        constructor
        · intro same
          cases same
          exact ⟨rfl, rfl, rfl, used⟩
        · rintro ⟨-, rfl, same, -⟩
          cases same
          rfl

/-- After a call that its command ignores, a builder is still like one that has not heard it. -/
theorem Alike.next_left {first second : Builder} (alike : first.Alike second) {call : Call}
    {fragment : Fragment} (fills : call.fragment? = some fragment)
    (unused : fragment ∉ first.command.fragments) : (first.next call).Alike second := by
  rw [next_eq]
  by_cases accepted : call.accepted = true
  · rw [if_pos accepted]
    refine ⟨alike.command, ?_⟩
    intro shown used
    have other : shown ≠ fragment := by
      rintro rfl
      exact unused used
    exact (Fragment.same_record_of_ne fills other first.draft).trans (alike.drafts shown used)
  · rw [if_neg accepted]
    exact alike

end Builder

namespace Step

/-- The step reported that its command leaves a fragment out. -/
def Ignored (step : Step) : Prop :=
  ∃ command fragment, .ignored command fragment ∈ step.reply.events

theorem ignored_call_iff {builder : Builder} {call : Call} :
    Ignored ⟨.call call, (builder.perform (.call call)).2⟩ ↔
      (∃ changed, builder.apply call = .ok changed) ∧
        ∃ fragment, call.fragment? = some fragment ∧ fragment ∉ builder.command.fragments := by
  have accepted : (∃ changed, builder.apply call = .ok changed) ↔ call.refusal? = none := by
    unfold Builder.apply
    cases call.refusal? with
    | some mismatch => simp
    | none => simp
  rw [accepted]
  constructor
  · rintro ⟨command, fragment, reported⟩
    obtain ⟨unrefused, -, fills, unused⟩ := Builder.ignored_mem_callEvents_iff.mp reported
    exact ⟨unrefused, fragment, fills, unused⟩
  · rintro ⟨unrefused, fragment, fills, unused⟩
    exact ⟨builder.command, fragment,
      Builder.ignored_mem_callEvents_iff.mpr ⟨unrefused, rfl, fills, unused⟩⟩

theorem not_ignored_build (builder : Builder) : ¬Ignored ⟨.build, (builder.perform .build).2⟩ := by
  rintro ⟨command, fragment, reported⟩
  change .ignored command fragment ∈ builder.buildEvents at reported
  unfold Builder.buildEvents at reported
  cases built : builder.build with
  | ok statement => simp [built] at reported
  | error error => simp [built] at reported

end Step

namespace Builder

/-- Calls are reported as ignored exactly if they are accepted for a fragment that the command does
not use. Any of them can be left out of a run: the steps that are left are the steps of the run
without them, every build and every refusal answered as before, with the same events. -/
theorem trace_without_ignored (builder : Builder) :
    (∀ call : Call, Step.Ignored ⟨.call call, (builder.perform (.call call)).2⟩ ↔
      (∃ changed, builder.apply call = .ok changed) ∧
        ∃ fragment, call.fragment? = some fragment ∧ fragment ∉ builder.command.fragments) ∧
    ∀ (actions : List Action) (kept : List Step),
      Thinned Step.Ignored (builder.trace actions) kept →
        builder.trace (kept.map Step.action) = kept := by
  refine ⟨fun call => Step.ignored_call_iff, ?_⟩
  intro actions kept thinned
  refine (trace_thinned Alike.perform ?_ (Alike.refl builder) thinned).1
  intro first second action alike ignored
  cases action with
  | build => exact absurd ignored (Step.not_ignored_build first)
  | call call =>
    obtain ⟨-, fragment, fills, unused⟩ := Step.ignored_call_iff.mp ignored
    exact alike.next_left fills unused

/-- An insertion that hears about columns, predicates, limits and assignments. Three of the calls that
it ignores are left out, one of them after a clearing; the limit and the refused predicate stay. -/
theorem trace_without_ignored_insert :
    let actions : List Action := [.call (.table "t".toList), .call (.field ["x".toList]), .build,
      .call (.predicate "k = ?".toList [.int 1]), .call (.predicate "k = ?".toList []),
      .call (.limit 3), .call (.value "c".toList (.int 1)), .build, .call .clear,
      .call (.set "d".toList (.int 2)), .build]
    let kept : List Step := (((insert.trace actions).eraseIdx 9).eraseIdx 3).eraseIdx 1
    Thinned Step.Ignored (insert.trace actions) kept ∧ insert.trace (kept.map Step.action) = kept := by
  intro actions kept
  have thinned : Thinned Step.Ignored (insert.trace actions) kept := by
    apply Thinned.keep
    apply Thinned.leave ⟨.insert, .field, List.mem_singleton_self _⟩
    apply Thinned.keep
    apply Thinned.leave ⟨.insert, .predicate, List.mem_singleton_self _⟩
    iterate 5 apply Thinned.keep
    apply Thinned.leave ⟨.insert, .set, List.mem_singleton_self _⟩
    exact .keep .nil
  exact ⟨thinned, (trace_without_ignored insert).2 actions kept thinned⟩

end Builder

end PreparedCql
