import PreparedCql.Proofs.NormalSpacing
import PreparedCql.Proofs.Rendering
import PreparedCql.Proofs.Templates

/-! Deletions of whole rows. Whether a deletion names columns is decided on the joined names, before
they are spaced, but what decides in the end is whether the statement shows a word of them. -/

namespace PreparedCql

open Text

/-- Columns that a deletion does not name: none, or a single name that is a star or blank. -/
def UnnamedColumns : List Text → Prop
  | [] => True
  | [name] => name = ['*'] ∨ name.Blank
  | _ :: _ :: _ => False

instance : DecidablePred UnnamedColumns
  | [] => inferInstanceAs (Decidable True)
  | [name] => inferInstanceAs (Decidable (name = ['*'] ∨ name.Blank))
  | _ :: _ :: _ => inferInstanceAs (Decidable False)

theorem comma_mem_intercalate (first second : Text) (others : List Text) :
    ',' ∈ ", ".toList.intercalate (first :: second :: others) := by
  rw [List.intercalate_cons_cons]
  simp

namespace Draft

/-- What a deletion shows of its columns. -/
def shownColumns (draft : Draft) : Text := Command.delete.shown .field (Fragment.text draft .field)

/-- What a deletion shows behind its columns. -/
def origin (draft : Draft) : Text :=
  collapse ([' '].intercalate ["FROM".toList, Fragment.text draft .table,
    Fragment.text draft .option, Fragment.text draft .predicate])

theorem shownColumns_eq (draft : Draft) :
    draft.shownColumns =
      if draft.fields = [] ∨ draft.fields = [['*']] then [] else ", ".toList.intercalate draft.fields := by
  rw [shownColumns, Fragment.text, Command.shown]
  rcases draft.fields with _ | ⟨name, _ | ⟨second, others⟩⟩
  · rfl
  · simp
  · have other : ", ".toList.intercalate (name :: second :: others) ≠ ['*'] := by
      intro star
      have comma := comma_mem_intercalate name second others
      rw [star] at comma
      cases List.mem_singleton.mp comma
    have several : ¬(name :: second :: others = [] ∨ name :: second :: others = [['*']]) := by simp
    rw [if_neg fun whole => other whole.2.2, if_neg several]
    rfl

theorem shownColumns_of_named {draft : Draft} (named : ¬UnnamedColumns draft.fields) :
    draft.shownColumns = ", ".toList.intercalate draft.fields := by
  rw [shownColumns_eq]
  apply if_neg
  rintro (none | star)
  · rw [none] at named
    exact named trivial
  · rw [star] at named
    exact named (.inl rfl)

/-- Two names or more have a comma between them, which is shown whatever the names are. -/
theorem words_shownColumns_eq_nil_iff (draft : Draft) :
    words draft.shownColumns = [] ↔ UnnamedColumns draft.fields := by
  rw [shownColumns_eq, words_eq_nil_iff]
  rcases draft.fields with _ | ⟨name, _ | ⟨second, others⟩⟩
  · simp [UnnamedColumns, Blank]
  · by_cases star : name = ['*']
    · simp [UnnamedColumns, star, Blank]
    · simp [UnnamedColumns, star]
  · have shown : ¬Blank (", ".toList.intercalate (name :: second :: others)) := by
      intro blank
      cases blank ',' (comma_mem_intercalate name second others)
    simpa [UnnamedColumns] using shown

theorem words_origin_ne_nil (draft : Draft) : words draft.origin ≠ [] := by
  rw [origin, words_collapse, words, Words.words_intercalate_eq_flatMap isBlank_space]
  exact List.cons_ne_nil _ _

theorem words_render_delete (draft : Draft) :
    words (Command.delete.render (draft.slots .delete)) =
      "DELETE".toList :: (words draft.shownColumns ++ words draft.origin) := by
  have parts : Command.delete.template.map (Part.text .delete draft) =
      "DELETE".toList :: draft.shownColumns :: ["FROM".toList, Fragment.text draft .table,
        Fragment.text draft .option, Fragment.text draft .predicate] := rfl
  rw [render_slots, parts, origin, words_collapse, words, words, words,
    Words.words_intercalate_eq_flatMap isBlank_space,
    Words.words_intercalate_eq_flatMap isBlank_space, List.flatMap_cons, List.flatMap_cons]
  rfl

/-- A deletion is its keyword, the columns if there is a word of them, and all that is behind them. -/
theorem query_delete (draft : Draft) :
    draft.query .delete =
      "DELETE ".toList ++ (if words draft.shownColumns = [] then [] else
        collapse draft.shownColumns ++ [' ']) ++ draft.origin := by
  have behind : [' '].intercalate (words draft.origin) = draft.origin := collapse_collapse _
  have spaced : draft.query .delete =
      [' '].intercalate ("DELETE".toList :: (words draft.shownColumns ++ words draft.origin)) := by
    rw [← words_render_delete]
    rfl
  rw [spaced]
  by_cases unnamed : words draft.shownColumns = []
  · rw [if_pos unnamed, unnamed, List.nil_append,
      List.intercalate_cons_of_ne_nil draft.words_origin_ne_nil, behind]
    rfl
  · have shown : words draft.shownColumns ++ words draft.origin ≠ [] :=
      List.append_ne_nil_of_left_ne_nil unnamed _
    rw [if_neg unnamed, List.intercalate_cons_of_ne_nil shown,
      Words.intercalate_append _ unnamed draft.words_origin_ne_nil, behind]
    simp [collapse, Words.spaced, words]

end Draft

namespace Builder

/-- A deletion is one of whole rows, the statement that is built without any column, exactly if no
column is given, or a star and nothing else, or a single blank name. Every other deletion has its
columns between its keyword and what it has in common with that of whole rows, and they are not empty. -/
theorem deletes_whole_rows_iff {builder : Builder} (deletion : builder.command = .delete)
    {statement : Statement} (built : builder.build = .ok statement) :
    let columns := builder.draft.fields
    let named := collapse (", ".toList.intercalate columns)
    ∃ whole : Statement,
      { builder with draft := { builder.draft with fields := [] } }.build = .ok whole ∧
      whole.query = "DELETE ".toList ++ builder.draft.origin ∧
      (statement = whole ↔ UnnamedColumns columns) ∧
      (¬UnnamedColumns columns →
        named ≠ [] ∧ statement.query = "DELETE ".toList ++ named ++ ' ' :: builder.draft.origin) := by
  intro columns named
  obtain ⟨table, rfl⟩ := (build_eq_ok_iff builder statement).mp built
  let bare : Draft := { builder.draft with fields := [] }
  have unnamed : words bare.shownColumns = [] := rfl
  have whole : bare.query .delete = "DELETE ".toList ++ builder.draft.origin := by
    rw [bare.query_delete, if_pos unnamed]
    rfl
  refine ⟨⟨bare.query builder.command, bare.params builder.command⟩, ?_, ?_, ?_, ?_⟩
  · exact (build_eq_ok_iff _ _).mpr ⟨table, rfl⟩
  · rw [deletion]
    exact whole
  · have params : builder.draft.params builder.command = bare.params builder.command := by
      apply Draft.params_congr
      intro fragment _
      cases fragment <;> rfl
    rw [Statement.mk.injEq, params, deletion, ← Draft.words_shownColumns_eq_nil_iff, Draft.query,
      Draft.query, collapse_eq_collapse_iff, Draft.words_render_delete, Draft.words_render_delete,
      unnamed]
    have same : bare.origin = builder.draft.origin := rfl
    simp [same]
  · intro given
    have shown := mt builder.draft.words_shownColumns_eq_nil_iff.mp given
    have joined : builder.draft.shownColumns = ", ".toList.intercalate columns :=
      Draft.shownColumns_of_named given
    constructor
    · intro (empty : collapse (", ".toList.intercalate columns) = [])
      rw [joined, ← words_collapse, empty] at shown
      exact shown rfl
    · rw [deletion, Draft.query_delete, if_neg shown, joined]
      simp [named, columns]

/-- A star behind a space is a column, and a tab is none. -/
theorem deletes_whole_rows_iff_spaced :
    let starred := (new .delete).after [.field [" *".toList], .table "t".toList, .limit 1,
      .predicate "k = ?".toList [.int 1]]
    let blank := (new .delete).after [.field ["\t".toList], .table "t".toList]
    let statement : Statement := ⟨"DELETE * FROM t WHERE k = ?".toList, [.int 1]⟩
    (starred.command = .delete ∧ starred.build = .ok statement ∧
      ¬UnnamedColumns starred.draft.fields) ∧
    (∃ whole : Statement,
      { starred with draft := { starred.draft with fields := [] } }.build = .ok whole ∧
        whole.query = "DELETE ".toList ++ starred.draft.origin ∧ statement ≠ whole ∧
        statement.query =
          "DELETE ".toList ++ collapse " *".toList ++ ' ' :: starred.draft.origin) ∧
    (UnnamedColumns blank.draft.fields ∧
      { blank with draft := { blank.draft with fields := [] } }.build = blank.build) := by
  intro starred blank statement
  have built : starred.build = .ok statement := rfl
  have named : ¬UnnamedColumns starred.draft.fields := by decide
  obtain ⟨whole, bare, query, same, others⟩ := deletes_whole_rows_iff rfl built
  have deleted : blank.build = .ok ⟨"DELETE FROM t".toList, []⟩ := rfl
  have unnamed : UnnamedColumns blank.draft.fields := by decide
  obtain ⟨all, bareAll, -, sameAll, -⟩ := deletes_whole_rows_iff rfl deleted
  refine ⟨⟨rfl, built, named⟩, ⟨whole, bare, query, mt same.mp named, (others named).2⟩, unnamed, ?_⟩
  rw [bareAll, deleted, sameAll.mpr unnamed]

end Builder

end PreparedCql
