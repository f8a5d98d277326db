import PreparedCql.Proofs.Likeness

/-! Equality of values, builders and statements. Floats are compared as numbers, so values that are
equal need not be the same, and a value with something in it that is no number differs from itself.
Equality is still symmetric and transitive, and nothing that is done to equal builders with equal
values tells them apart. -/

namespace PreparedCql

theorem Binary64.same_trans {left middle right : Binary64} (first : left.same middle = true)
    (second : middle.same right = true) : left.same right = true := by
  simp only [same, Bool.and_eq_true, Bool.not_eq_true', Bool.or_eq_true, beq_iff_eq]
    at first second ⊢
  obtain ⟨⟨leftNumber, -⟩, firstBits⟩ := first
  obtain ⟨⟨-, rightNumber⟩, secondBits⟩ := second
  refine ⟨⟨leftNumber, rightNumber⟩, ?_⟩
  rcases firstBits with bits | ⟨leftZero, middleZero⟩
  · have same : left = middle := congrArg Binary64.mk bits
    rwa [same]
  · rcases secondBits with bits | ⟨-, rightZero⟩
    · have same : middle = right := congrArg Binary64.mk bits
      exact .inr ⟨leftZero, same ▸ middleZero⟩
    · exact .inr ⟨leftZero, rightZero⟩

theorem List.beq_iff_forall₂ {α : Type} [BEq α] (lefts rights : List α) :
    (lefts == rights) = true ↔
      List.Forall₂ (fun left right => (left == right) = true) lefts rights := by
  induction lefts generalizing rights with
  | nil => cases rights <;> simp
  | cons left lefts ih =>
    cases rights with
    | nil => simp
    | cons right rights => rw [List.cons_beq_cons, Bool.and_eq_true, List.forall₂_cons, ih]

/-- Pairings compose if what they pair does, item by item of the first list. -/
theorem forall₂_trans_of_mem {α : Type} {relation : α → α → Prop} {lefts middles rights : List α}
    (trans : ∀ left ∈ lefts, ∀ middle right, relation left middle → relation middle right →
      relation left right)
    (first : List.Forall₂ relation lefts middles) (second : List.Forall₂ relation middles rights) :
    List.Forall₂ relation lefts rights := by
  induction first generalizing rights with
  | nil => exact second
  | cons head _ ih =>
    obtain ⟨here, others⟩ := List.forall_mem_cons.mp trans
    cases second with
    | cons next tail => exact .cons (here _ _ head next) (ih others tail)

namespace Value

/-- There is a float in the value that is no number, itself or at some depth in its items. -/
inductive HoldsNaN : Value → Prop where
  | float {number : Binary64} (nan : number.isNaN = true) : HoldsNaN (.float number)
  | item {items : List Value} {item : Value} (member : item ∈ items) (inside : item.HoldsNaN) :
      HoldsNaN (.list items)

theorem list_beq_list_iff (lefts rights : List Value) :
    (list lefts == list rights) = true ↔
      List.Forall₂ (fun left right : Value => (left == right) = true) lefts rights := by
  rw [beq_eq_same, same, sameItems_eq_beq, List.beq_iff_forall₂]

/-- Values other than floats and lists are equal only if they are the same. -/
theorem eq_of_beq_of_scalar {left right : Value} (equal : (left == right) = true)
    (float : ∀ number, left ≠ .float number) (list : ∀ items, left ≠ .list items) : left = right := by
  rw [beq_eq_same] at equal
  cases left with
  | float number => exact absurd rfl (float number)
  | list items => exact absurd rfl (list items)
  | _ => cases right <;> simp_all [same]

theorem beq_symm {left right : Value} (equal : (left == right) = true) : (right == left) = true := by
  induction left using inductionOnItems generalizing right with
  | float number =>
    cases right with
    | float other => exact (other.same_comm number).trans equal
    | _ => cases equal
  | list lefts ih =>
    cases right with
    | list rights =>
      rw [list_beq_list_iff] at equal ⊢
      have both := (List.forall₂_and_left _ _).mpr ⟨ih, equal⟩
      exact (both.imp fun _ _ pair => pair.1 pair.2).flip
    | _ => cases equal
  | _ =>
    have same := eq_of_beq_of_scalar equal nofun nofun
    rwa [← same] at equal ⊢

theorem beq_comm (left right : Value) : (left == right) = (right == left) :=
  Bool.eq_iff_iff.mpr ⟨beq_symm, beq_symm⟩

theorem beq_trans {left middle right : Value} (first : (left == middle) = true)
    (second : (middle == right) = true) : (left == right) = true := by
  induction left using inductionOnItems generalizing middle right with
  | float number =>
    cases middle with
    | float between =>
      cases right with
      | float other => exact Binary64.same_trans first second
      | _ => cases second
    | _ => cases first
  | list lefts ih =>
    cases middle with
    | list middles =>
      cases right with
      | list rights =>
        rw [list_beq_list_iff] at first second ⊢
        exact forall₂_trans_of_mem (fun item member _ _ => ih item member) first second
      | _ => cases second
    | _ => cases first
  | _ =>
    have same := eq_of_beq_of_scalar first nofun nofun
    rwa [same]

theorem beq_self_iff (value : Value) : (value == value) = true ↔ ¬value.HoldsNaN := by
  induction value using inductionOnItems with
  | float number =>
    have number_iff : (float number).HoldsNaN ↔ number.isNaN = true :=
      ⟨fun | .float nan => nan, .float⟩
    rw [beq_eq_same, same, number.same_self, number_iff, Bool.not_eq_true, Bool.not_eq_true']
  | list items ih =>
    have items_iff : (list items).HoldsNaN ↔ ∃ item ∈ items, item.HoldsNaN :=
      ⟨fun | .item member inside => ⟨_, member, inside⟩,
        fun ⟨_, member, inside⟩ => .item member inside⟩
    rw [list_beq_list_iff, List.forall₂_same, items_iff]
    push Not
    exact forall₂_congr ih
  | _ => simp [beq_eq_same, same]; nofun

end Value

/-- Equal values stand for each other, and equal counts. -/
def Likeness.equality : Likeness where
  value left right := (left == right) = true
  count left right := (left == right) = true
  positive equal := by rw [eq_of_beq equal]
  zero := rfl

theorem Likeness.beq_of_param {left right : Value} (like : equality.param left right) :
    (left == right) = true := by
  rcases like with equal | ⟨count, other, equal, rfl, rfl⟩
  · exact equal
  · exact equal

theorem Bindings.beq_iff_like {first second : Bindings} :
    (first == second) = true ↔ first.Like .equality second := by
  have fields : (first == second) =
      (first.names == second.names && first.values == second.values) := rfl
  rw [fields, Bool.and_eq_true, beq_iff_eq, List.beq_iff_forall₂]
  exact ⟨fun ⟨names, values⟩ => ⟨names, values⟩, fun like => ⟨like.names, like.values⟩⟩

theorem Predicates.beq_iff_like {first second : Predicates} :
    (first == second) = true ↔ first.Like .equality second := by
  have fields : (first == second) =
      (first.clauses == second.clauses && first.values == second.values) := rfl
  rw [fields, Bool.and_eq_true, beq_iff_eq, List.beq_iff_forall₂]
  exact ⟨fun ⟨clauses, values⟩ => ⟨clauses, values⟩, fun like => ⟨like.clauses, like.values⟩⟩

theorem RowLimit.beq_iff_like {first second : RowLimit} :
    (first == second) = true ↔ first.Like .equality second := by
  have fields : (first == second) =
      (first.enabled == second.enabled && first.count == second.count) := rfl
  rw [fields, Bool.and_eq_true, beq_iff_eq]
  exact ⟨fun ⟨enabled, count⟩ => ⟨enabled, count⟩, fun like => ⟨like.enabled, like.count⟩⟩

theorem Draft.beq_iff_like {first second : Draft} :
    (first == second) = true ↔ first.Like .equality second := by
  have fields : (first == second) =
      (first.keyspace == second.keyspace && (first.table == second.table &&
        (first.fields == second.fields && (first.predicates == second.predicates &&
          (first.order == second.order && (first.limit == second.limit &&
            (first.inserts == second.inserts && (first.assignments == second.assignments &&
              (first.options == second.options && first.upsert == second.upsert))))))))) := rfl
  simp only [fields, Bool.and_eq_true, beq_iff_eq, Predicates.beq_iff_like, RowLimit.beq_iff_like,
    Bindings.beq_iff_like]
  constructor
  · rintro ⟨keyspace, table, fields, predicates, order, limit, inserts, assignments, options, upsert⟩
    exact ⟨keyspace, table, fields, predicates, order, limit, inserts, assignments, options, upsert⟩
  · rintro ⟨keyspace, table, fields, predicates, order, limit, inserts, assignments, options, upsert⟩
    exact ⟨keyspace, table, fields, predicates, order, limit, inserts, assignments, options, upsert⟩

theorem Builder.beq_iff_like {first second : Builder} :
    (first == second) = true ↔ first.Like .equality second := by
  have fields : (first == second) =
      (first.command == second.command && first.draft == second.draft) := rfl
  rw [fields, Bool.and_eq_true, beq_iff_eq, Draft.beq_iff_like]
  exact ⟨fun ⟨command, draft⟩ => ⟨command, draft⟩, fun like => ⟨like.command, like.draft⟩⟩

theorem Statement.beq_iff {first second : Statement} :
    (first == second) = true ↔
      first.query = second.query ∧ (first.params == second.params) = true := by
  have fields : (first == second) =
      (first.query == second.query && first.params == second.params) := rfl
  rw [fields, Bool.and_eq_true, beq_iff_eq]

/-- The values of all four lists, whether or not the command shows them. -/
def Draft.values (draft : Draft) : List Value :=
  draft.predicates.values ++ draft.inserts.values ++ draft.assignments.values ++ draft.options.values

/-- Replies with the same events and the same errors, and with equal statements. -/
inductive Reply.Equal : Reply → Reply → Prop where
  | failed (events : List Event) (error : BuildError) :
      Equal ⟨events, .error error⟩ ⟨events, .error error⟩
  | done (events : List Event) : Equal ⟨events, .ok none⟩ ⟨events, .ok none⟩
  | built (events : List Event) {first second : Statement} (statements : (first == second) = true) :
      Equal ⟨events, .ok (some first)⟩ ⟨events, .ok (some second)⟩

theorem Reply.Like.equal {first second : Reply} (like : first.Like .equality second) :
    first.Equal second := by
  cases like with
  | failed events error => exact .failed events error
  | done events => exact .done events
  | built events statements =>
    obtain ⟨query, params⟩ := statements
    refine .built events (Statement.beq_iff.mpr ⟨rfl, (List.beq_iff_forall₂ _ _).mpr ?_⟩)
    exact params.imp fun _ _ => Likeness.beq_of_param

theorem Draft.like_self_iff (draft : Draft) :
    draft.Like .equality draft ↔ ∀ value ∈ draft.values, ¬value.HoldsNaN := by
  have values_iff (values : List Value) :
      List.Forall₂ Likeness.equality.value values values ↔ ∀ value ∈ values, ¬value.HoldsNaN := by
    rw [List.forall₂_same]
    exact forall₂_congr fun value _ => value.beq_self_iff
  simp only [values, List.forall_mem_append, ← values_iff]
  constructor
  · intro like
    exact ⟨⟨⟨like.predicates.values, like.inserts.values⟩, like.assignments.values⟩,
      like.options.values⟩
  · rintro ⟨⟨⟨predicates, inserts⟩, assignments⟩, options⟩
    exact ⟨rfl, rfl, rfl, ⟨rfl, predicates⟩, rfl, ⟨rfl, beq_self_eq_true _⟩, ⟨rfl, inserts⟩,
      ⟨rfl, assignments⟩, ⟨rfl, options⟩, rfl⟩

namespace Builder

theorem beq_self_iff (builder : Builder) :
    (builder == builder) = true ↔ ∀ value ∈ builder.draft.values, ¬value.HoldsNaN := by
  rw [beq_iff_like, ← Draft.like_self_iff]
  exact ⟨Like.draft, Like.mk rfl⟩

/-- Equality of values is symmetric and transitive, and a value or builder differs from itself only if
something in it is no number. Equal builders answer the same run, with equal values in it, by the same
errors and by equal statements, and they are equal at the end. -/
theorem equality_kept_by_runs :
    (∀ left right : Value, (left == right) = (right == left)) ∧
    (∀ left middle right : Value,
      (left == middle) = true → (middle == right) = true → (left == right) = true) ∧
    (∀ value : Value, (value == value) = true ↔ ¬value.HoldsNaN) ∧
    (∀ builder : Builder,
      (builder == builder) = true ↔ ∀ value ∈ builder.draft.values, ¬value.HoldsNaN) ∧
    ∀ (first second : Builder) (lefts rights : List Action), (first == second) = true →
      List.Forall₂ (Action.Like .equality) lefts rights →
        ((first.run lefts).1 == (second.run rights).1) = true ∧
          List.Forall₂ Reply.Equal (first.run lefts).2 (second.run rights).2 := by
  refine ⟨Value.beq_comm, fun _ _ _ => Value.beq_trans, Value.beq_self_iff, beq_self_iff, ?_⟩
  intro first second lefts rights equal actions
  have runs := (beq_iff_like.mp equal).run actions
  exact ⟨beq_iff_like.mpr runs.1, runs.2.imp fun _ _ => Reply.Like.equal⟩

/-- Two updates that differ in the signs of their zeros, one of which is in a list, with a predicate
that is refused on the way. -/
theorem equality_kept_by_runs_update :
    let zero : Value := .float ⟨0⟩
    let negativeZero : Value := .float ⟨0x8000000000000000⟩
    let first := (new .update).value "a".toList (Value.list [zero, .null])
    let second := (new .update).value "a".toList (Value.list [negativeZero, .null])
    let lefts : List Action := [.call (.predicate "b = ?".toList []), .call (.table "t".toList),
      .call (.predicate "b = ?".toList [negativeZero]), .build]
    let rights : List Action := [.call (.predicate "b = ?".toList []), .call (.table "t".toList),
      .call (.predicate "b = ?".toList [zero]), .build]
    ((zero == negativeZero) = true ∧ (negativeZero == zero) = true ∧ (zero == zero) = true) ∧
    ((first == second) = true ∧ List.Forall₂ (Action.Like .equality) lefts rights) ∧
      ((first.run lefts).1 == (second.run rights).1) = true ∧
        List.Forall₂ Reply.Equal (first.run lefts).2 (second.run rights).2 := by
  intro zero negativeZero first second lefts rights
  have zeros : (zero == negativeZero) = true := by decide
  have back : (negativeZero == zero) = true := by decide
  have equal : (first == second) = true := by decide
  have actions : List.Forall₂ (Action.Like .equality) lefts rights := by
    refine .cons (.call (.predicate _ .nil)) (.cons (.call (.table _)) ?_)
    exact .cons (.call (.predicate _ (.cons back .nil))) (.cons .build .nil)
  have transitive := equality_kept_by_runs.2.1 zero negativeZero zero zeros back
  exact ⟨⟨zeros, back, transitive⟩, ⟨equal, actions⟩,
    equality_kept_by_runs.2.2.2.2 first second lefts rights equal actions⟩

end Builder

end PreparedCql
