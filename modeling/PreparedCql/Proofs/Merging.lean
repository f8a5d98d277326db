import PreparedCql.Proofs.BlankTexts
import PreparedCql.Proofs.Ignored
import PreparedCql.Proofs.Refusals
import PreparedCql.Proofs.Templates

/-! Calls that are split or merged. Columns and predicates are joined when a statement is built, so it
makes no difference whether they are given one by one, in groups or joined in advance. The drafts then
differ, but only in how these rows are divided, and every later call keeps them so. -/

namespace PreparedCql

/-- Rows of texts that are joined to one text and are empty together. -/
structure JoinedAlike (separator : Text) (first second : List Text) : Prop where
  empty : first = [] ↔ second = []
  joined : separator.intercalate first = separator.intercalate second

namespace JoinedAlike

variable {separator : Text}

theorem refl (parts : List Text) : JoinedAlike separator parts parts := ⟨.rfl, rfl⟩

/-- A row may be joined in advance if there is something in it. -/
theorem singleton {parts : List Text} (nonempty : parts ≠ []) :
    JoinedAlike separator parts [separator.intercalate parts] where
  empty := by simp [nonempty]
  joined := List.intercalate_singleton.symm

theorem append {before before' after after' : List Text}
    (left : JoinedAlike separator before before') (right : JoinedAlike separator after after') :
    JoinedAlike separator (before ++ after) (before' ++ after') where
  empty := by rw [List.append_eq_nil_iff, List.append_eq_nil_iff, left.empty, right.empty]
  joined := by
    by_cases first : before = []
    · rw [first, left.empty.mp first, List.nil_append, List.nil_append, right.joined]
    · by_cases last : after = []
      · rw [last, right.empty.mp last, List.append_nil, List.append_nil, left.joined]
      · rw [Words.intercalate_append separator first last,
          Words.intercalate_append separator (mt left.empty.mpr first) (mt right.empty.mpr last),
          left.joined, right.joined]

end JoinedAlike

/-- Drafts that differ in nothing but how their columns and their predicates are divided. -/
structure Draft.Redivided (first second : Draft) : Prop where
  others : ∀ fragment : Fragment, fragment ≠ .field → fragment ≠ .predicate →
    fragment.Same first second
  columns : JoinedAlike ", ".toList first.fields second.fields
  clauses : JoinedAlike " AND ".toList first.predicates.clauses second.predicates.clauses
  values : first.predicates.values = second.predicates.values

namespace Draft.Redivided

variable {first second : Draft}

theorem text (redivided : first.Redivided second) (fragment : Fragment) :
    fragment.text first = fragment.text second := by
  cases fragment with
  | field =>
    simp only [Fragment.text, List.isEmpty_iff, redivided.columns.empty, redivided.columns.joined]
  | predicate =>
    simp only [Fragment.text, List.isEmpty_iff, redivided.clauses.empty, redivided.clauses.joined]
  | _ => exact (redivided.others _ (by decide) (by decide)).text

theorem bound (redivided : first.Redivided second) (fragment : Fragment) :
    fragment.bound first = fragment.bound second := by
  cases fragment with
  | field => rfl
  | predicate => exact redivided.values
  | _ => exact (redivided.others _ (by decide) (by decide)).bound

/-- A call adds to both drafts in the same way, or it makes both of them new. -/
theorem record (redivided : first.Redivided second) (call : Call) :
    (first.record call).Redivided (second.record call) where
  others := fun fragment columns predicates =>
    (redivided.others fragment columns predicates).record call
  columns := by
    cases call with
    | field names => exact redivided.columns.append (.refl names)
    | clear => exact .refl []
    | _ => exact redivided.columns
  clauses := by
    cases call with
    | predicate clause | rawPredicate clause => exact redivided.clauses.append (.refl [clause])
    | clear => exact .refl []
    | _ => exact redivided.clauses
  values := by
    cases call with
    | predicate _ values => exact congrArg (· ++ values) redivided.values
    | rawPredicate => exact congrArg (· ++ []) redivided.values
    | clear => rfl
    | _ => exact redivided.values

end Draft.Redivided

structure Builder.Redivided (first second : Builder) : Prop where
  command : first.command = second.command
  draft : first.draft.Redivided second.draft

namespace Builder.Redivided

variable {first second : Builder}

theorem build (redivided : first.Redivided second) : first.build = second.build := by
  have table := redivided.draft.others .table (by decide) (by decide)
  have named : first.draft.tableName? = second.draft.tableName? := by
    rw [Draft.tableName?, Draft.tableName?, table.2]
  exact build_congr redivided.command named redivided.draft.text redivided.draft.bound

theorem next (redivided : first.Redivided second) (call : Call) :
    (first.next call).Redivided (second.next call) :=
  next_related redivided rfl ⟨redivided.command, redivided.draft.record call⟩

theorem replies (redivided : first.Redivided second) (actions : List Action) :
    (first.run actions).2 = (second.run actions).2 := by
  have step : ∀ {first second : Builder} {left right : Action}, first.Redivided second →
      left = right → (first.perform left).1.Redivided (second.perform right).1 ∧
        (first.perform left).2 = (second.perform right).2 := by
    rintro first second action _ redivided rfl
    refine ⟨?_, reply_perform_congr redivided.command redivided.build action⟩
    cases action with
    | call call => exact redivided.next call
    | build => exact redivided
  have same : List.Forall₂ Eq actions actions := List.forall₂_same.mpr fun _ _ => rfl
  have answered := (run_related step redivided same).2
  rwa [List.forall₂_eq_eq_eq] at answered

end Builder.Redivided

namespace Builder

/-- The predicates and their values behind those that are there, without asking for their markers. -/
def withPredicates (builder : Builder) (conditions : List (Text × List Value)) : Builder :=
  { builder with draft := { builder.draft with predicates :=
      { clauses := builder.draft.predicates.clauses ++ conditions.map Prod.fst
        values := builder.draft.predicates.values ++ conditions.flatMap Prod.snd } } }

theorem apply_predicate_eq_ok_iff {builder changed : Builder} {clause : Text}
    {values : List Value} :
    builder.apply (.predicate clause values) = .ok changed ↔
      clause.markers = values.length ∧ changed = builder.record (.predicate clause values) := by
  by_cases count : clause.markers = values.length
  · have unrefused : Call.refusal? (.predicate clause values) = none := if_pos count
    rw [apply_eq_record unrefused]
    simp [count, eq_comm]
  · rw [apply_predicate_eq_error_iff.mpr ⟨count, rfl⟩]
    simp [count]

theorem foldlM_predicate {conditions : List (Text × List Value)}
    (counts : ∀ condition ∈ conditions, Text.markers condition.1 = condition.2.length)
    (builder : Builder) :
    conditions.foldlM (fun builder condition => builder.apply (.predicate condition.1 condition.2))
      builder = .ok (builder.withPredicates conditions) := by
  induction conditions generalizing builder with
  | nil => simp [withPredicates, pure, Except.pure]
  | cons condition rest ih =>
    obtain ⟨head, tail⟩ := List.forall_mem_cons.mp counts
    rw [List.foldlM_cons, apply_predicate_eq_ok_iff.mpr ⟨head, rfl⟩]
    -- The first predicate is recorded, and the others are added to the builder that holds it.
    change rest.foldlM _ (builder.record (.predicate condition.1 condition.2)) = _
    rw [ih tail]
    simp [withPredicates, record, Draft.record, Predicates.add]

/-- The joined clauses have a marker for each of all the values. -/
theorem markers_conjunction {conditions : List (Text × List Value)}
    (counts : ∀ condition ∈ conditions, Text.markers condition.1 = condition.2.length) :
    Text.markers (" AND ".toList.intercalate (conditions.map Prod.fst)) =
      (conditions.flatMap Prod.snd).length := by
  have absent : List.countP (· == Text.marker) " AND ".toList = 0 := by decide
  calc
    Text.markers (" AND ".toList.intercalate (conditions.map Prod.fst))
    _ = ((conditions.map Prod.fst).map Text.markers).sum := Words.countP_intercalate absent _
    _ = (conditions.map fun condition => condition.2.length).sum := by
      rw [List.map_map]
      exact congrArg List.sum (List.map_congr_left counts)
    _ = (conditions.flatMap Prod.snd).length := List.length_flatMap.symm

theorem redivided_predicates {conditions : List (Text × List Value)} (nonempty : conditions ≠ [])
    (builder : Builder) :
    (builder.withPredicates conditions).Redivided (builder.record
      (.predicate (" AND ".toList.intercalate (conditions.map Prod.fst))
        (conditions.flatMap Prod.snd))) where
  command := rfl
  draft :=
    { others := by
        intro fragment _ other
        cases fragment with
        | predicate => exact absurd rfl other
        | table => exact ⟨rfl, rfl⟩
        | _ => rfl
      columns := .refl _
      clauses := (JoinedAlike.refl _).append (.singleton (mt List.map_eq_nil_iff.mp nonempty))
      values := rfl }

theorem foldl_field {ν : Type} [Names ν] (columns : List ν) (builder : Builder) :
    columns.foldl field builder = builder.record (.field (columns.flatMap names)) := by
  induction columns generalizing builder with
  | nil => simp [record, Draft.record]
  | cons first rest ih =>
    rw [List.foldl_cons, ih]
    simp [field, record, Draft.record]

theorem redivided_columns {columns : List Text} (nonempty : columns ≠ []) (builder : Builder) :
    (builder.record (.field columns)).Redivided
      (builder.field (", ".toList.intercalate columns)) where
  command := rfl
  draft :=
    { others := by
        intro fragment other _
        cases fragment with
        | field => exact absurd rfl other
        | table => exact ⟨rfl, rfl⟩
        | _ => rfl
      columns := (JoinedAlike.refl _).append (.singleton nonempty)
      clauses := .refl _
      values := rfl }

/-- Predicates that are accepted one by one are accepted as one, their clauses joined by `AND` and their
values put together, and whatever is called and built afterwards is answered alike. The same goes for
columns that are given one by one, in groups, some of them empty, or joined by commas as one name. -/
theorem replies_kept_by_merging (builder : Builder) :
    (∀ conditions : List (Text × List Value), conditions ≠ [] →
      (∀ condition ∈ conditions, ∃ changed,
        builder.apply (.predicate condition.1 condition.2) = .ok changed) →
      ∃ split merged : Builder,
        conditions.foldlM
          (fun builder condition => builder.apply (.predicate condition.1 condition.2)) builder =
            .ok split ∧
        builder.apply (.predicate (" AND ".toList.intercalate (conditions.map Prod.fst))
          (conditions.flatMap Prod.snd)) = .ok merged ∧
        ∀ actions : List Action, (split.run actions).2 = (merged.run actions).2) ∧
    ∀ (columns : List Text) (groups : List (List Text)), columns ≠ [] → groups.flatten = columns →
      let merged := builder.field (", ".toList.intercalate columns)
      ∀ actions : List Action,
        ((columns.foldl field builder).run actions).2 = (merged.run actions).2 ∧
        ((groups.foldl field builder).run actions).2 = (merged.run actions).2 := by
  constructor
  · intro conditions nonempty accepted
    have counts : ∀ condition ∈ conditions, Text.markers condition.1 = condition.2.length := by
      intro condition member
      obtain ⟨changed, applied⟩ := accepted condition member
      exact (apply_predicate_eq_ok_iff.mp applied).1
    exact ⟨_, _, foldlM_predicate counts builder,
      apply_predicate_eq_ok_iff.mpr ⟨markers_conjunction counts, rfl⟩,
      (redivided_predicates nonempty builder).replies⟩
  · intro columns groups nonempty grouped merged actions
    have one : columns.flatMap names = columns := List.flatMap_singleton' columns
    have some : groups.flatMap names = columns := by
      rw [← grouped]
      exact List.flatMap_id
    rw [foldl_field, foldl_field, one, some]
    have same := (redivided_columns nonempty builder).replies actions
    exact ⟨same, same⟩

/-- A deletion whose only column is a star, given between empty groups, with two predicates that are
followed by a third, another column and a clearing. -/
theorem replies_kept_by_merging_delete :
    let builder := delete.table "t".toList
    let conditions : List (Text × List Value) :=
      [("a = ?".toList, [.int 1]), ("b IN (?, ?)".toList, [.int 2, .null])]
    let groups : List (List Text) := [[], ["*".toList], []]
    let actions : List Action := [.build, .call (.rawPredicate "c".toList),
      .call (.field ["d".toList]), .build, .call .clear, .build]
    (conditions ≠ [] ∧
      (∀ condition ∈ conditions, ∃ changed,
        builder.apply (.predicate condition.1 condition.2) = .ok changed) ∧
      ["*".toList] ≠ [] ∧ groups.flatten = ["*".toList]) ∧
    (∃ split merged : Builder,
      conditions.foldlM
        (fun builder condition => builder.apply (.predicate condition.1 condition.2)) builder =
          .ok split ∧
      builder.apply (.predicate "a = ? AND b IN (?, ?)".toList [.int 1, .int 2, .null]) =
        .ok merged ∧
      (split.run actions).2 = (merged.run actions).2) ∧
    ((groups.foldl field builder).run actions).2 =
      ((builder.field "*".toList).run actions).2 := by
  intro builder conditions groups actions
  have nonempty : conditions ≠ [] := List.cons_ne_nil _ _
  have accepted : ∀ condition ∈ conditions, ∃ changed,
      builder.apply (.predicate condition.1 condition.2) = .ok changed := by
    simp only [conditions, List.forall_mem_cons]
    exact ⟨⟨_, rfl⟩, ⟨_, rfl⟩, List.forall_mem_nil _⟩
  have named : ["*".toList] ≠ [] := List.cons_ne_nil _ _
  obtain ⟨split, merged, one, whole, same⟩ :=
    (replies_kept_by_merging builder).1 conditions nonempty accepted
  have columns := (replies_kept_by_merging builder).2 ["*".toList] groups named rfl actions
  exact ⟨⟨nonempty, accepted, named, rfl⟩, ⟨split, merged, one, whole, same actions⟩, columns.2⟩

end Builder

end PreparedCql
