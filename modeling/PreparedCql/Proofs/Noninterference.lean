import PreparedCql.Proofs.Likeness

/-! Values never reach the text of a statement. Two runs with the same texts cannot be told apart by
anything but the parameters themselves, and a function on the values passes through to these. -/

namespace PreparedCql

namespace Likeness

/-- Any value for any other; limits only have to agree on whether they are set. -/
def sameTexts : Likeness where
  value _ _ := True
  count first second := 0 < first ↔ 0 < second
  positive := id
  zero := .rfl

/-- Each value for the one that it is mapped to, and limits for themselves. -/
def image (f : Value → Value) : Likeness where
  value given mapped := f given = mapped
  count := Eq
  positive := by
    rintro count _ rfl
    exact .rfl
  zero := rfl

end Likeness

/-- What a statement shows to one who may count its parameters but not look at them. -/
def Statement.outline (statement : Statement) : Text × Nat :=
  (statement.query, statement.params.length)

/-- The events, and the error or the outline of the statement. -/
def Reply.outline (reply : Reply) : List Event × Except BuildError (Option (Text × Nat)) :=
  (reply.events, reply.outcome.map (Option.map Statement.outline))

theorem Reply.Like.outline {likeness : Likeness} {first second : Reply}
    (like : first.Like likeness second) : first.outline = second.outline := by
  cases like with
  | failed | done => rfl
  | built events statements =>
    cases statements with
    | mk query params =>
      have counts := params.length_eq
      simp only [Reply.outline, Except.map, Option.map_some, Statement.outline, counts]

namespace Call

def mapValues (f : Value → Value) : Call → Call
  | predicate clause values => predicate clause (values.map f)
  | value column content => value column (f content)
  | set column content => set column (f content)
  | option name content => option name (f content)
  | call => call

theorem like_mapValues (f : Value → Value) (call : Call) :
    call.Like (.image f) (call.mapValues f) := by
  cases call with
  | table name => exact .table name
  | qualifiedTable keyspace name => exact .qualifiedTable keyspace name
  | field names => exact .field names
  | predicate clause values =>
    have mapped : List.Forall₂ (Likeness.image f).value values (values.map f) :=
      List.forall₂_map_right_iff.mpr (List.forall₂_same.mpr fun _ _ => rfl)
    exact .predicate clause mapped
  | rawPredicate clause => exact .rawPredicate clause
  | order clause => exact .order clause
  | limit count => exact .limit rfl
  | value column content => exact .value column rfl
  | set column content => exact .set column rfl
  | option name content => exact .option name rfl
  | upsert flag => exact .upsert flag
  | clear => exact .clear

end Call

namespace Action

def mapValues (f : Value → Value) : Action → Action
  | call made => call (made.mapValues f)
  | build => build

theorem like_mapValues (f : Value → Value) (action : Action) :
    action.Like (.image f) (action.mapValues f) := by
  cases action with
  | call made => exact .call (made.like_mapValues f)
  | build => exact .build

end Action

/-- The parameters that were given as values. -/
def Draft.givenParams (draft : Draft) (command : Command) : List Value :=
  (command.fragments.filter (· ≠ .limit)).flatMap (·.bound draft)

theorem Draft.Like.givenParams {likeness : Likeness} {first second : Draft}
    (like : first.Like likeness second) (command : Command) :
    List.Forall₂ likeness.value (first.givenParams command) (second.givenParams command) := by
  have same : List.Forall₂ (fun left right => left = right ∧ left ≠ .limit)
      (command.fragments.filter (· ≠ .limit)) (command.fragments.filter (· ≠ .limit)) := by
    apply List.forall₂_same.mpr
    intro fragment member
    exact ⟨rfl, by simpa using (List.mem_filter.mp member).2⟩
  apply List.rel_flatMap same
  rintro fragment _ ⟨rfl, given⟩
  exact like.bound given

namespace Builder

/-- The count that `LIMIT` binds, if there is a limit and the command has a place for it. -/
def limitParams (builder : Builder) : List Value :=
  if builder.command.uses .limit && builder.draft.limit.enabled then
    [.int builder.draft.limit.count]
  else []

/-- The limit comes last. -/
theorem params_eq (builder : Builder) :
    builder.draft.params builder.command =
      builder.draft.givenParams builder.command ++ builder.limitParams := by
  unfold Draft.params Draft.givenParams limitParams
  cases builder.command with
  | select =>
    cases limited : builder.draft.limit.enabled with
    | true => simp [Command.fragments, Command.uses, Fragment.bound, limited]
    | false => simp [Command.fragments, Command.uses, Fragment.bound, limited]
  | insert | update | delete => simp [Command.fragments, Command.uses]

theorem limitParams_of_like_image {f : Value → Value} {first second : Builder}
    (like : first.Like (.image f) second) : second.limitParams = first.limitParams := by
  have count : first.draft.limit.count = second.draft.limit.count := like.draft.limit.count
  rw [limitParams, limitParams, like.command, like.draft.limit.enabled, count]

theorem givenParams_of_like_image {f : Value → Value} {first second : Builder}
    (like : first.Like (.image f) second) :
    second.draft.givenParams second.command = (first.draft.givenParams first.command).map f := by
  have mapped : List.Forall₂ (fun given image => f given = image)
      (first.draft.givenParams first.command) (second.draft.givenParams second.command) := by
    rw [← like.command]
    exact like.draft.givenParams first.command
  rw [← List.forall₂_map_left_iff (R := Eq), List.forall₂_eq_eq_eq] at mapped
  exact mapped.symm

/-- Two runs of the same texts whose limits are set or not alike are answered alike in all but the
parameters: the same events, the same refusals and failures, the same queries with equally many
parameters. If the values of the second are those of the first under a function, then the parameters
of a statement that is built after it are those of the first under this function, except for the
count that `LIMIT` binds, which stays. -/
theorem values_stay_out_of_text (command : Command) :
    (∀ first second : List Action, List.Forall₂ (Action.Like .sameTexts) first second →
      ((new command).run first).2.map Reply.outline =
        ((new command).run second).2.map Reply.outline) ∧
    ∀ (f : Value → Value) (actions : List Action),
      let builder := ((new command).run actions).1
      let mapped := ((new command).run (actions.map (Action.mapValues f))).1
      (∀ error, builder.build = .error error → mapped.build = .error error) ∧
      ∀ statement, builder.build = .ok statement →
        ∃ given, statement.params = given ++ builder.limitParams ∧
          mapped.build = .ok ⟨statement.query, given.map f ++ builder.limitParams⟩ := by
  constructor
  · intro first second actions
    have replies := (Like.run (.new command) actions).2
    have outlines : List.Forall₂ Eq (((new command).run first).2.map Reply.outline)
        (((new command).run second).2.map Reply.outline) := by
      rw [List.forall₂_map_left_iff, List.forall₂_map_right_iff]
      exact replies.imp fun _ _ like => like.outline
    rwa [List.forall₂_eq_eq_eq] at outlines
  · intro f actions builder mapped
    have each : List.Forall₂ (Action.Like (.image f)) actions (actions.map (Action.mapValues f)) :=
      List.forall₂_map_right_iff.mpr (List.forall₂_same.mpr fun action _ => action.like_mapValues f)
    have like : builder.Like (.image f) mapped := (Like.run (.new command) each).1
    constructor
    · intro error failed
      rcases like.build with ⟨left, right⟩ | ⟨left, right, built, -, -⟩
      · rw [← failed, left, right]
      · rw [built] at failed
        cases failed
    · intro statement built
      obtain ⟨named, rfl⟩ := (build_eq_ok_iff builder statement).mp built
      refine ⟨builder.draft.givenParams builder.command, builder.params_eq, ?_⟩
      rw [build_eq_ok_iff, mapped.params_eq, givenParams_of_like_image like,
        limitParams_of_like_image like, ← like.draft.tableName?, ← like.command,
        like.draft.query]
      exact ⟨named, rfl⟩

/-- Two selections with other values and another limit, each with a refused predicate, and the first
of them with its values put into lists. -/
theorem values_stay_out_of_text_select :
    let first : List Action := [.call (.predicate "a = ?".toList [.text "x' OR b = ?".toList]),
      .call (.predicate "b = ?".toList []), .build, .call (.limit 3),
      .call (.table "t".toList), .build]
    let second : List Action := [.call (.predicate "a = ?".toList [.null]),
      .call (.predicate "b = ?".toList []), .build, .call (.limit 90),
      .call (.table "t".toList), .build]
    let builder := ((new .select).run first).1
    let mapped := ((new .select).run (first.map (Action.mapValues fun value => .list [value]))).1
    let statement : Statement := ⟨"SELECT * FROM t WHERE a = ? LIMIT ?".toList,
      [.text "x' OR b = ?".toList, .int 3]⟩
    (List.Forall₂ (Action.Like .sameTexts) first second ∧
      ((new .select).run first).2.map Reply.outline =
        ((new .select).run second).2.map Reply.outline) ∧
    builder.build = .ok statement ∧
      ∃ given, statement.params = given ++ builder.limitParams ∧
        mapped.build =
          .ok ⟨statement.query, (given.map fun value => .list [value]) ++ builder.limitParams⟩ := by
  intro first second builder mapped statement
  have same : List.Forall₂ (Action.Like .sameTexts) first second := by
    refine .cons (.call (.predicate _ (.cons trivial .nil))) ?_
    refine .cons (.call (.predicate _ .nil)) (.cons .build ?_)
    refine .cons (.call (.limit ?_)) (.cons (.call (.table _)) (.cons .build .nil))
    change (0 : Int64) < 3 ↔ (0 : Int64) < 90
    decide
  have built : builder.build = .ok statement := rfl
  have stays := values_stay_out_of_text .select
  exact ⟨⟨same, stays.1 first second same⟩, built, (stays.2 _ first).2 statement built⟩

end Builder

end PreparedCql
