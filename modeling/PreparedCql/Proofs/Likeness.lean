import Mathlib.Data.List.Forall2
import PreparedCql.Proofs.Rendering
import PreparedCql.Proofs.Runs

/-! Runs that differ in their values only. A likeness says which values may stand for which others and
is carried from there to calls, drafts, builders and replies. Texts are the same on both sides, so
alike calls on alike builders are accepted or refused together and build one query, with parameters
that are alike one by one. -/

namespace PreparedCql

/-- Which values may stand for which others, and which counts of a limit: counts that set a limit for
counts that set one, and the counts of new builders for each other. -/
structure Likeness where
  value : Value → Value → Prop
  count : Int64 → Int64 → Prop
  positive : ∀ {first second : Int64}, count first second → (0 < first ↔ 0 < second)
  zero : count 0 0

namespace Likeness

/-- A parameter was given as a value or as the count of a limit. -/
def param (likeness : Likeness) (first second : Value) : Prop :=
  likeness.value first second ∨ ∃ left right : Int64,
    likeness.count left right ∧ first = .int left ∧ second = .int right

end Likeness

variable {likeness : Likeness}

inductive Call.Like (likeness : Likeness) : Call → Call → Prop where
  | table (name : Text) : Like likeness (.table name) (.table name)
  | qualifiedTable (keyspace name : Text) :
      Like likeness (.qualifiedTable keyspace name) (.qualifiedTable keyspace name)
  | field (names : List Text) : Like likeness (.field names) (.field names)
  | predicate (clause : Text) {first second : List Value}
      (values : List.Forall₂ likeness.value first second) :
      Like likeness (.predicate clause first) (.predicate clause second)
  | rawPredicate (clause : Text) : Like likeness (.rawPredicate clause) (.rawPredicate clause)
  | order (clause : Text) : Like likeness (.order clause) (.order clause)
  | limit {first second : Int64} (count : likeness.count first second) :
      Like likeness (.limit first) (.limit second)
  | value (column : Text) {first second : Value} (value : likeness.value first second) :
      Like likeness (.value column first) (.value column second)
  | set (column : Text) {first second : Value} (value : likeness.value first second) :
      Like likeness (.set column first) (.set column second)
  | option (name : Text) {first second : Value} (value : likeness.value first second) :
      Like likeness (.option name first) (.option name second)
  | upsert (flag : Bool) : Like likeness (.upsert flag) (.upsert flag)
  | clear : Like likeness .clear .clear

namespace Call.Like

variable {first second : Call}

/-- Predicates with equally many values are refused together, and with the same counts. -/
theorem refusal? (like : first.Like likeness second) : first.refusal? = second.refusal? := by
  cases like with
  | predicate clause values =>
    have counts := values.length_eq
    simp only [Call.refusal?, mismatch?, counts]
  | _ => rfl

theorem accepted (like : first.Like likeness second) : first.accepted = second.accepted := by
  rw [Call.accepted, Call.accepted, like.refusal?]

theorem fragment? (like : first.Like likeness second) : first.fragment? = second.fragment? := by
  cases like <;> rfl

end Call.Like

inductive Action.Like (likeness : Likeness) : Action → Action → Prop where
  | call {first second : Call} (like : first.Like likeness second) :
      Like likeness (.call first) (.call second)
  | build : Like likeness .build .build

structure Bindings.Like (likeness : Likeness) (first second : Bindings) : Prop where
  names : first.names = second.names
  values : List.Forall₂ likeness.value first.values second.values

theorem Bindings.Like.add {first second : Bindings} (like : first.Like likeness second) (name : Text)
    {left right : Value} (value : likeness.value left right) :
    (first.add name left).Like likeness (second.add name right) where
  names := congrArg (· ++ [name]) like.names
  values := List.rel_append like.values (.cons value .nil)

structure Predicates.Like (likeness : Likeness) (first second : Predicates) : Prop where
  clauses : first.clauses = second.clauses
  values : List.Forall₂ likeness.value first.values second.values

theorem Predicates.Like.add {first second : Predicates} (like : first.Like likeness second)
    (clause : Text) {lefts rights : List Value} (values : List.Forall₂ likeness.value lefts rights) :
    (first.add clause lefts).Like likeness (second.add clause rights) where
  clauses := congrArg (· ++ [clause]) like.clauses
  values := List.rel_append like.values values

structure RowLimit.Like (likeness : Likeness) (first second : RowLimit) : Prop where
  enabled : first.enabled = second.enabled
  count : likeness.count first.count second.count

theorem RowLimit.Like.ofCount {left right : Int64} (count : likeness.count left right) :
    (ofCount left).Like likeness (ofCount right) where
  enabled := decide_eq_decide.mpr (likeness.positive count)
  count := count

structure Draft.Like (likeness : Likeness) (first second : Draft) : Prop where
  keyspace : first.keyspace = second.keyspace
  table : first.table = second.table
  fields : first.fields = second.fields
  predicates : first.predicates.Like likeness second.predicates
  order : first.order = second.order
  limit : first.limit.Like likeness second.limit
  inserts : first.inserts.Like likeness second.inserts
  assignments : first.assignments.Like likeness second.assignments
  options : first.options.Like likeness second.options
  upsert : first.upsert = second.upsert

namespace Draft.Like

theorem empty : Like likeness {} {} where
  keyspace := rfl
  table := rfl
  fields := rfl
  predicates := ⟨rfl, .nil⟩
  order := rfl
  limit := ⟨rfl, likeness.zero⟩
  inserts := ⟨rfl, .nil⟩
  assignments := ⟨rfl, .nil⟩
  options := ⟨rfl, .nil⟩
  upsert := rfl

variable {first second : Draft}

theorem record (like : first.Like likeness second) {left right : Call}
    (calls : left.Like likeness right) : (first.record left).Like likeness (second.record right) := by
  cases calls with
  | clear => exact empty
  | table => exact { like with keyspace := rfl, table := rfl }
  | qualifiedTable => exact { like with keyspace := rfl, table := rfl }
  | field names => exact { like with fields := congrArg (· ++ names) like.fields }
  | predicate clause values =>
    exact { like with predicates := like.predicates.add clause values }
  | rawPredicate clause => exact { like with predicates := like.predicates.add clause .nil }
  | order => exact { like with order := rfl }
  | limit count => exact { like with limit := .ofCount count }
  | value column value => exact { like with inserts := like.inserts.add column value }
  | set column value => exact { like with assignments := like.assignments.add column value }
  | option name value => exact { like with options := like.options.add name value }
  | upsert => exact { like with upsert := rfl }

theorem tableName? (like : first.Like likeness second) : first.tableName? = second.tableName? := by
  rw [Draft.tableName?, Draft.tableName?, like.table]

/-- No text shows a value. -/
theorem text (like : first.Like likeness second) (fragment : Fragment) :
    fragment.text first = fragment.text second := by
  cases fragment with
  | field => simp only [Fragment.text, like.fields]
  | table => simp only [Fragment.text, Draft.keyspaceName?, like.keyspace, like.table]
  | predicate => simp only [Fragment.text, like.predicates.clauses]
  | order => simp only [Fragment.text, Draft.orderClause?, like.order]
  | limit => simp only [Fragment.text, like.limit.enabled]
  | value => simp only [Fragment.text, like.inserts.names]
  | set => simp only [Fragment.text, like.assignments.names]
  | option => simp only [Fragment.text, like.options.names]
  | condition => simp only [Fragment.text, like.upsert]

theorem query (like : first.Like likeness second) (command : Command) :
    first.query command = second.query command :=
  query_congr fun fragment _ => like.text fragment

theorem bound (like : first.Like likeness second) {fragment : Fragment} (given : fragment ≠ .limit) :
    List.Forall₂ likeness.value (fragment.bound first) (fragment.bound second) := by
  cases fragment with
  | limit => exact absurd rfl given
  | predicate => exact like.predicates.values
  | value => exact like.inserts.values
  | set => exact like.assignments.values
  | option => exact like.options.values
  | field | table | order | condition => exact .nil

theorem bound_limit (like : first.Like likeness second) :
    List.Forall₂ likeness.param (Fragment.limit.bound first) (Fragment.limit.bound second) := by
  simp only [Fragment.bound, like.limit.enabled]
  cases second.limit.enabled with
  | false => exact .nil
  | true => exact .cons (.inr ⟨_, _, like.limit.count, rfl, rfl⟩) .nil

theorem params (like : first.Like likeness second) (command : Command) :
    List.Forall₂ likeness.param (first.params command) (second.params command) := by
  unfold Draft.params
  induction command.fragments with
  | nil => exact .nil
  | cons fragment rest ih =>
    rw [List.flatMap_cons, List.flatMap_cons]
    refine List.rel_append ?_ ih
    by_cases limits : fragment = .limit
    · rw [limits]
      exact like.bound_limit
    · exact (like.bound limits).imp fun _ _ => .inl

end Draft.Like

structure Builder.Like (likeness : Likeness) (first second : Builder) : Prop where
  command : first.command = second.command
  draft : first.draft.Like likeness second.draft

inductive Statement.Like (likeness : Likeness) : Statement → Statement → Prop where
  | mk (query : Text) {first second : List Value} (params : List.Forall₂ likeness.param first second) :
      Like likeness ⟨query, first⟩ ⟨query, second⟩

/-- Replies with the same events and the same errors, and with statements that are alike. -/
inductive Reply.Like (likeness : Likeness) : Reply → Reply → Prop where
  | failed (events : List Event) (error : BuildError) :
      Like likeness ⟨events, .error error⟩ ⟨events, .error error⟩
  | done (events : List Event) : Like likeness ⟨events, .ok none⟩ ⟨events, .ok none⟩
  | built (events : List Event) {first second : Statement}
      (statements : first.Like likeness second) :
      Like likeness ⟨events, .ok (some first)⟩ ⟨events, .ok (some second)⟩

namespace Builder.Like

theorem new (command : Command) : (new command).Like likeness (new command) where
  command := rfl
  draft := .empty

variable {first second : Builder}

theorem next (like : first.Like likeness second) {left right : Call}
    (calls : left.Like likeness right) : (first.next left).Like likeness (second.next right) :=
  next_related like calls.accepted ⟨like.command, like.draft.record calls⟩

theorem callEvents (like : first.Like likeness second) {left right : Call}
    (calls : left.Like likeness right) : first.callEvents left = second.callEvents right := by
  unfold Builder.callEvents
  rw [calls.refusal?, calls.fragment?, like.command]
  cases right.refusal? with
  | some mismatch => rfl
  | none => cases calls <;> rfl

/-- Alike builders fail to build together, or they build alike statements. -/
theorem build (like : first.Like likeness second) :
    (first.build = .error .missingTable ∧ second.build = .error .missingTable) ∨
      ∃ left right, first.build = .ok left ∧ second.build = .ok right ∧ left.Like likeness right := by
  unfold Builder.build
  rw [like.draft.tableName?, like.draft.query first.command, like.command]
  cases second.draft.tableName? with
  | none => exact .inl ⟨rfl, rfl⟩
  | some name => exact .inr ⟨_, _, rfl, rfl, .mk _ (like.draft.params second.command)⟩

theorem perform (like : first.Like likeness second) {left right : Action}
    (actions : left.Like likeness right) :
    (first.perform left).1.Like likeness (second.perform right).1 ∧
      (first.perform left).2.Like likeness (second.perform right).2 := by
  cases actions with
  | @call left right calls =>
    refine ⟨like.next calls, ?_⟩
    change Reply.Like likeness ⟨first.callEvents left, (first.perform (.call left)).2.outcome⟩
      ⟨second.callEvents right, (second.perform (.call right)).2.outcome⟩
    rw [outcome_call, outcome_call, like.callEvents calls, calls.refusal?]
    cases right.refusal? with
    | some mismatch => exact .failed _ _
    | none => exact .done _
  | build =>
    refine ⟨like, ?_⟩
    unfold Builder.perform buildEvents
    -- The event of a build shows the query and how many parameters there are, but none of them.
    rcases like.build with ⟨left, right⟩ | ⟨_, _, left, right, @⟨query, _, _, params⟩⟩
    · rw [left, right]
      exact .failed _ _
    · rw [left, right]
      have counts := params.length_eq
      simp only [like.command, counts]
      exact .built _ (.mk query params)

/-- Alike builders answer alike runs alike and are alike at the end. -/
theorem run (like : first.Like likeness second) {lefts rights : List Action}
    (actions : List.Forall₂ (Action.Like likeness) lefts rights) :
    (first.run lefts).1.Like likeness (second.run rights).1 ∧
      List.Forall₂ (Reply.Like likeness) (first.run lefts).2 (second.run rights).2 :=
  run_related (fun builders actions => builders.perform actions) like actions

end Builder.Like

end PreparedCql
