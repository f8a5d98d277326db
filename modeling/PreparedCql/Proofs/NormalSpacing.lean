import PreparedCql.Proofs.BlankTexts

/-! What spacing makes of a text, letter by letter. A text is a run of blanks and then letters, each of
them with the blanks behind it. The spaced text has the same letters in the same order, one space
between two of them where there were blanks, and nothing before the first or behind the last. So it
tells the words of the text and nothing else of it. -/

namespace PreparedCql

/-- A character that is not blank, and the blanks behind it. -/
structure Cell where
  letter : Char
  gap : Text
  visible : Text.isBlank letter = false
  blank : gap.Blank

namespace Cell

def written (cell : Cell) : Text := cell.letter :: cell.gap

/-- The letters of the cells, with one space between two of them where there is a gap. -/
def folded : List Cell → Text
  | [] => []
  | [last] => [last.letter]
  | cell :: next :: rest =>
      cell.letter :: (if cell.gap = [] then [] else [' ']) ++ folded (next :: rest)

theorem exists_cells (text : Text) :
    ∃ (lead : Text) (cells : List Cell), lead.Blank ∧ text = lead ++ cells.flatMap written := by
  induction text with
  | nil => exact ⟨[], [], List.forall_mem_nil _, rfl⟩
  | cons first rest ih =>
    obtain ⟨lead, cells, blank, rfl⟩ := ih
    cases visible : Text.isBlank first with
    | true => exact ⟨first :: lead, cells, List.forall_mem_cons.mpr ⟨visible, blank⟩, rfl⟩
    | false => exact ⟨[], ⟨first, lead, visible, blank⟩ :: cells, List.forall_mem_nil _, rfl⟩

end Cell

namespace Text

theorem collapse_append_blank_left {blanks : Text} (blank : blanks.Blank) (text : Text) :
    collapse (blanks ++ text) = collapse text :=
  (collapse_eq_collapse_iff _ _).mpr (words_append_blank_left blank text)

/-- Letters that stand in cells are spaced as their gaps say. -/
theorem collapse_cells (cells : List Cell) : collapse (cells.flatMap Cell.written) = Cell.folded cells := by
  induction cells with
  | nil => rfl
  | cons cell rest ih =>
    have apart : (cell :: rest).flatMap Cell.written =
        cell.letter :: (cell.gap ++ rest.flatMap Cell.written) := rfl
    rw [apart, collapse_cons_of_not_blank cell.visible, collapse_append_blank_left cell.blank, ih,
      words_append_blank_left cell.blank]
    -- A gap leaves a space only if another letter follows.
    cases rest with
    | nil => simp [words, Words.words, Words.cut, Cell.folded]
    | cons next others =>
      have shown : words ((next :: others).flatMap Cell.written) ≠ [] := by
        intro none
        have blank := (words_eq_nil_iff _).mp none next.letter List.mem_cons_self
        rw [next.visible] at blank
        cases blank
      cases gap : cell.gap with
      | nil => simp [Cell.written, Cell.folded, next.visible, gap]
      | cons first more =>
        have blank : isBlank first = true := cell.blank first (by simp [gap])
        rw [if_pos ⟨blank, shown⟩]
        simp [Cell.folded, gap]

theorem collapse_collapse (text : Text) : collapse (collapse text) = collapse text :=
  (collapse_eq_collapse_iff _ _).mpr (words_collapse text)

theorem words_eq_splitOnP (text : Text) :
    words text = (text.splitOnP isBlank).filter (!·.isEmpty) := by
  have pieces : Words.cut isBlank text = text.splitOnP isBlank := by
    induction text with
    | nil => rfl
    | cons first rest ih => rw [Words.cut, ih, List.splitOnP_cons_eq_if_modifyHead]
  rw [words, Words.words, pieces]

theorem filter_collapse (text : Text) :
    (collapse text).filter (!isBlank ·) = text.filter (!isBlank ·) := by
  rw [← Words.flatten_words, ← Words.flatten_words]
  exact congrArg List.flatten (words_collapse text)

theorem markers_collapse (text : Text) : markers (collapse text) = markers text := by
  apply Words.countP_spaced isBlank_space
  intro character blank
  apply beq_false_of_ne
  rintro rfl
  cases blank

theorem words_append_gap {gap : Text} (nonempty : gap ≠ []) (blank : gap.Blank) (left right : Text) :
    words (left ++ gap ++ right) = words left ++ words right := by
  obtain ⟨first, rest, rfl⟩ := List.exists_cons_of_ne_nil nonempty
  obtain ⟨separates, blanks⟩ := List.forall_mem_cons.mp blank
  rw [List.append_assoc, List.cons_append, ← words_append_blank_left blanks right]
  exact Words.words_append_separator separates left (rest ++ right)

/-- Spacing keeps the letters of a text in their order, folds the blanks between two neighbours to one
space and drops those at the ends. So a spaced text stays as it is, there are as many markers as
before, texts are spaced alike exactly if they have the same words, and what stands on either side of
blanks can be spaced on its own before. -/
theorem collapse_is_normal_spacing :
    (∀ text : Text,
      (collapse text).filter (!isBlank ·) = text.filter (!isBlank ·) ∧
      (∃ (lead : Text) (cells : List Cell), lead.Blank ∧ text = lead ++ cells.flatMap Cell.written ∧
        collapse text = Cell.folded cells) ∧
      collapse (collapse text) = collapse text ∧
      markers (collapse text) = markers text) ∧
    (∀ first second : Text, collapse first = collapse second ↔
      (first.splitOnP isBlank).filter (!·.isEmpty) =
        (second.splitOnP isBlank).filter (!·.isEmpty)) ∧
    ∀ gap left right : Text, gap ≠ [] → gap.Blank →
      collapse (left ++ gap ++ right) = collapse (collapse left ++ gap ++ collapse right) := by
  refine ⟨?_, ?_, ?_⟩
  · intro text
    obtain ⟨lead, cells, blank, written⟩ := Cell.exists_cells text
    have folded : collapse text = Cell.folded cells := by
      rw [written, collapse_append_blank_left blank, collapse_cells]
    exact ⟨filter_collapse text, ⟨lead, cells, blank, written, folded⟩, collapse_collapse text,
      markers_collapse text⟩
  · intro first second
    rw [collapse_eq_collapse_iff, words_eq_splitOnP, words_eq_splitOnP]
  · intro gap left right nonempty blank
    rw [collapse_eq_collapse_iff, words_append_gap nonempty blank, words_append_gap nonempty blank,
      words_collapse, words_collapse]

/-- A line break, a tab and an ideographic space between two texts with blanks of their own. -/
theorem collapse_is_normal_spacing_breaks :
    let gap : Text := "\n\t\u3000".toList
    let left : Text := " a  = ?".toList
    let right : Text := "AND\u00A0b ".toList
    (gap ≠ [] ∧ gap.Blank) ∧
      collapse (left ++ gap ++ right) = collapse (collapse left ++ gap ++ collapse right) ∧
      collapse (left ++ gap ++ right) = "a = ? AND b".toList := by
  intro gap left right
  have nonempty : gap ≠ [] := by decide
  have blank : gap.Blank := by decide
  exact ⟨⟨nonempty, blank⟩, collapse_is_normal_spacing.2.2 gap left right nonempty blank, by decide⟩

end Text

end PreparedCql
