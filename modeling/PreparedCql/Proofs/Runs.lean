import Mathlib.Data.List.Forall2
import PreparedCql.Proofs.History

/-! Runs compared with each other. What one action does to two builders, and how it is answered on
both, decides what whole runs do: builders that stay alike through every action answer two runs alike,
and an action that makes no difference to what follows can be left out of a run. -/

namespace PreparedCql

/-- An action and how it was answered. -/
structure Step where
  action : Action
  reply : Reply

/-- Some of the steps left out, each of them one that may be. -/
inductive Thinned (removable : Step → Prop) : List Step → List Step → Prop where
  | nil : Thinned removable [] []
  | keep {step : Step} {steps kept : List Step} (rest : Thinned removable steps kept) :
      Thinned removable (step :: steps) (step :: kept)
  | leave {step : Step} {steps kept : List Step} (allowed : removable step)
      (rest : Thinned removable steps kept) : Thinned removable (step :: steps) kept

theorem Thinned.filter {removable : Step → Prop} {keeps : Step → Bool} {steps : List Step}
    (allowed : ∀ step ∈ steps, keeps step = false → removable step) :
    Thinned removable steps (steps.filter keeps) := by
  induction steps with
  | nil => exact .nil
  | cons step steps ih =>
    have rest := ih fun later member => allowed later (List.mem_cons_of_mem _ member)
    cases kept : keeps step with
    | true =>
      rw [List.filter_cons_of_pos kept]
      exact .keep rest
    | false =>
      have dropped : ¬keeps step = true := by simp [kept]
      rw [List.filter_cons_of_neg dropped]
      exact .leave (allowed step List.mem_cons_self kept) rest

namespace Builder

/-- A run written down: each action with its answer. -/
def trace (builder : Builder) (actions : List Action) : List Step :=
  List.zipWith Step.mk actions (builder.run actions).2

theorem run_cons (builder : Builder) (action : Action) (actions : List Action) :
    builder.run (action :: actions) =
      (((builder.perform action).1.run actions).1,
        (builder.perform action).2 :: ((builder.perform action).1.run actions).2) := rfl

theorem trace_cons (builder : Builder) (action : Action) (actions : List Action) :
    builder.trace (action :: actions) =
      ⟨action, (builder.perform action).2⟩ :: (builder.perform action).1.trace actions := rfl

theorem run_append (builder : Builder) (before after : List Action) :
    builder.run (before ++ after) =
      (((builder.run before).1.run after).1,
        (builder.run before).2 ++ ((builder.run before).1.run after).2) := by
  induction before generalizing builder with
  | nil => rfl
  | cons action before ih => rw [List.cons_append, run_cons, ih, run_cons, List.cons_append]

/-- How a call is answered does not depend on what the builder holds. -/
theorem outcome_call (builder : Builder) (call : Call) :
    (builder.perform (.call call)).2.outcome =
      match call.refusal? with
      | some mismatch => .error (.markerMismatch mismatch)
      | none => .ok none := by
  change (builder.apply call).map _ = _
  unfold apply
  cases call.refusal? with
  | some mismatch => rfl
  | none => rfl

/-- Calls that are accepted or refused together keep builders related if recording them does. -/
theorem next_related {builders : Builder → Builder → Prop} {first second : Builder}
    {left right : Call} (related : builders first second)
    (together : left.accepted = right.accepted)
    (recorded : builders (first.record left) (second.record right)) :
    builders (first.next left) (second.next right) := by
  rw [next_eq, next_eq, together]
  by_cases accepted : right.accepted = true
  · rwa [if_pos accepted, if_pos accepted]
  · rwa [if_neg accepted, if_neg accepted]

/-- Builders for one command that would build the same answer an action alike. -/
theorem reply_perform_congr {first second : Builder} (commands : first.command = second.command)
    (built : first.build = second.build) (action : Action) :
    (first.perform action).2 = (second.perform action).2 := by
  cases action with
  | call call =>
    have events : first.callEvents call = second.callEvents call := by
      unfold callEvents
      rw [commands]
    have outcome :
        (first.perform (.call call)).2.outcome = (second.perform (.call call)).2.outcome := by
      rw [outcome_call, outcome_call]
    exact congrArg₂ Reply.mk events outcome
  | build => simp only [perform, buildEvents, built, commands]

/-- If related actions keep two builders related and are answered by related replies, then so do
whole runs of them. -/
theorem run_related {builders : Builder → Builder → Prop} {actions : Action → Action → Prop}
    {replies : Reply → Reply → Prop}
    (step : ∀ {first second : Builder} {left right : Action}, builders first second →
      actions left right → builders (first.perform left).1 (second.perform right).1 ∧
        replies (first.perform left).2 (second.perform right).2)
    {first second : Builder} (related : builders first second) {lefts rights : List Action}
    (alike : List.Forall₂ actions lefts rights) :
    builders (first.run lefts).1 (second.run rights).1 ∧
      List.Forall₂ replies (first.run lefts).2 (second.run rights).2 := by
  induction alike generalizing first second with
  | nil => exact ⟨related, .nil⟩
  | cons head _ ih =>
    obtain ⟨changed, answer⟩ := step related head
    obtain ⟨last, answers⟩ := ih changed
    exact ⟨last, .cons answer answers⟩

/-- If every action keeps two builders related and is answered alike on both, and a removable step
keeps them related although only the first of them makes it, then a trace with removable steps left
out is the trace of the actions that are left. -/
theorem trace_thinned {builders : Builder → Builder → Prop} {removable : Step → Prop}
    (both : ∀ {first second : Builder} (action : Action), builders first second →
      builders (first.perform action).1 (second.perform action).1 ∧
        (first.perform action).2 = (second.perform action).2)
    (alone : ∀ {first second : Builder} (action : Action), builders first second →
      removable ⟨action, (first.perform action).2⟩ → builders (first.perform action).1 second)
    {first second : Builder} (related : builders first second) {actions : List Action}
    {kept : List Step} (thinned : Thinned removable (first.trace actions) kept) :
    second.trace (kept.map Step.action) = kept ∧
      builders (first.run actions).1 (second.run (kept.map Step.action)).1 := by
  -- The first builder makes all steps. The second waits while it makes one that is left out.
  induction actions generalizing first second kept with
  | nil =>
    cases thinned
    exact ⟨rfl, related⟩
  | cons action actions ih =>
    rw [trace_cons] at thinned
    rw [run_cons]
    cases thinned with
    | keep rest =>
      obtain ⟨changed, answer⟩ := both action related
      obtain ⟨same, last⟩ := ih changed rest
      rw [List.map_cons, trace_cons, run_cons, same, answer]
      exact ⟨rfl, last⟩
    | leave allowed rest => exact ih (alone action related allowed) rest

end Builder

end PreparedCql
