import PreparedCql.Text.Blank

/-! Words of a sequence, the maximal runs between separators, and the form of a text in which one
space stands between neighbouring words. The cut is made on sequences of any kind, so that it can
also be taken of a text with values standing in it. A separator splits the words of what is before
it from the words of what is after it, and spacing a text keeps its words. -/

namespace PreparedCql.Words

variable {α : Type}

/-- The runs between separators, empty ones included. -/
def cut (separates : α → Bool) : List α → List (List α)
  | [] => [[]]
  | first :: rest =>
      if separates first then [] :: cut separates rest
      else (cut separates rest).modifyHead (first :: ·)

/-- The runs between separators that hold something. -/
def words (separates : α → Bool) (sequence : List α) : List (List α) :=
  (cut separates sequence).filter (!·.isEmpty)

/-- The words with one `space` between neighbours and none at the ends. -/
def spaced (separates : α → Bool) (space : α) (sequence : List α) : List α :=
  [space].intercalate (words separates sequence)

theorem cut_ne_nil (separates : α → Bool) (sequence : List α) : cut separates sequence ≠ [] := by
  induction sequence with
  | nil => simp [cut]
  | cons first rest ih =>
      rw [cut]
      split
      · simp
      · cases pieces : cut separates rest with
        | nil => exact absurd pieces ih
        | cons head tail => simp

theorem cut_append_separator {separates : α → Bool} {separator : α}
    (separated : separates separator = true) (left right : List α) :
    cut separates (left ++ separator :: right) = cut separates left ++ cut separates right := by
  induction left with
  | nil => simp [cut, separated]
  | cons first rest ih =>
      rw [List.cons_append, cut, cut, ih]
      split
      · rfl
      · cases pieces : cut separates rest with
        | nil => exact absurd pieces (cut_ne_nil separates rest)
        | cons head tail => rfl

theorem cut_of_no_separator {separates : α → Bool} {word : List α}
    (joined : ∀ element ∈ word, separates element = false) : cut separates word = [word] := by
  induction word with
  | nil => rfl
  | cons first rest ih =>
      rw [cut, joined first List.mem_cons_self,
        ih fun element member => joined element (List.mem_cons_of_mem _ member)]
      rfl

theorem cut_map {β : Type} (separates : β → Bool) (f : α → β) (sequence : List α) :
    cut separates (sequence.map f) = (cut (separates ∘ f) sequence).map (List.map f) := by
  induction sequence with
  | nil => rfl
  | cons first rest ih =>
      rw [List.map_cons, cut, cut, ih]
      by_cases separated : separates (f first) = true
      · simp [separated]
      · cases pieces : cut (separates ∘ f) rest with
        | nil => exact absurd pieces (cut_ne_nil _ rest)
        | cons head tail => simp [separated]

theorem not_separates_of_mem_cut {separates : α → Bool} {sequence run : List α}
    (member : run ∈ cut separates sequence) : ∀ element ∈ run, separates element = false := by
  induction sequence generalizing run with
  | nil => simp_all [cut]
  | cons first rest ih =>
      by_cases separated : separates first = true
      · simp only [cut, separated, if_true, List.mem_cons] at member
        rcases member with rfl | member
        · simp
        · exact ih member
      · cases pieces : cut separates rest with
        | nil => exact absurd pieces (cut_ne_nil separates rest)
        | cons head tail =>
            rw [cut, if_neg separated, pieces, List.modifyHead_cons] at member
            rw [pieces] at ih
            rcases List.mem_cons.mp member with rfl | member
            · intro element inside
              rcases List.mem_cons.mp inside with rfl | inside
              · simpa using separated
              · exact ih List.mem_cons_self element inside
            · exact ih (List.mem_cons_of_mem _ member)

theorem ne_nil_of_mem_words {separates : α → Bool} {sequence word : List α}
    (member : word ∈ words separates sequence) : word ≠ [] := by
  intro empty
  simp [words, empty] at member

theorem not_separates_of_mem_words {separates : α → Bool} {sequence word : List α}
    (member : word ∈ words separates sequence) : ∀ element ∈ word, separates element = false :=
  not_separates_of_mem_cut (List.mem_filter.mp member).1

/-- A separator belongs to no word and no word goes across it. -/
theorem words_append_separator {separates : α → Bool} {separator : α}
    (separated : separates separator = true) (left right : List α) :
    words separates (left ++ separator :: right) =
      words separates left ++ words separates right := by
  rw [words, cut_append_separator separated, List.filter_append]
  rfl

theorem words_of_no_separator {separates : α → Bool} {word : List α} (nonempty : word ≠ [])
    (joined : ∀ element ∈ word, separates element = false) : words separates word = [word] := by
  rw [words, cut_of_no_separator joined]
  simp [nonempty]

theorem words_map {β : Type} (separates : β → Bool) (f : α → β) (sequence : List α) :
    words separates (sequence.map f) = (words (separates ∘ f) sequence).map (List.map f) := by
  rw [words, words, cut_map, List.filter_map]
  congr 2
  funext run
  simp

/-- Words with separators between them are read back. -/
theorem words_intercalate {separates : α → Bool} {space : α} (separated : separates space = true)
    {parts : List (List α)}
    (joined : ∀ part ∈ parts, part ≠ [] ∧ ∀ element ∈ part, separates element = false) :
    words separates ([space].intercalate parts) = parts := by
  induction parts with
  | nil => rfl
  | cons first rest ih =>
      have head := joined first List.mem_cons_self
      have tail := ih fun part member => joined part (List.mem_cons_of_mem _ member)
      cases rest with
      | nil => rw [List.intercalate_singleton, words_of_no_separator head.1 head.2]
      | cons second others =>
          rw [List.intercalate_cons_cons, List.append_assoc, List.singleton_append,
            words_append_separator separated, words_of_no_separator head.1 head.2, tail]
          rfl

theorem words_spaced {separates : α → Bool} {space : α} (separated : separates space = true)
    (sequence : List α) :
    words separates (spaced separates space sequence) = words separates sequence :=
  words_intercalate separated fun _ member =>
    ⟨ne_nil_of_mem_words member, not_separates_of_mem_words member⟩

end PreparedCql.Words

namespace PreparedCql.Text

def words (text : Text) : List Text := Words.words isBlank text

/-- The words of a text with one space between neighbours. -/
def collapse (text : Text) : Text := Words.spaced isBlank ' ' text

theorem words_collapse (text : Text) : words (collapse text) = words text :=
  Words.words_spaced isBlank_space text

end PreparedCql.Text
