import PreparedCql.Proofs.Spacing

/-! The spaced form of a text, seen from its blanks. Spacing folds each run of blanks to one space and
drops the runs at both ends. The folding alone does not reach across a letter, so it can be taken of
the parts of a text that stand between letters. -/

namespace PreparedCql

theorem Words.words_cons_separator {α : Type} {separates : α → Bool} {separator : α}
    (separated : separates separator = true) (rest : List α) :
    words separates (separator :: rest) = words separates rest :=
  words_append_separator separated [] rest

/-- The words of a row are the words of its parts. -/
theorem Words.words_intercalate_eq_flatMap {α : Type} {separates : α → Bool} {space : α}
    (separated : separates space = true) (parts : List (List α)) :
    words separates ([space].intercalate parts) = parts.flatMap (words separates) := by
  induction parts with
  | nil => rfl
  | cons first rest ih =>
    cases rest with
    | nil => rw [List.intercalate_singleton, List.flatMap_singleton]
    | cons second others =>
      rw [List.intercalate_cons_cons, List.append_assoc, List.singleton_append,
        words_append_separator separated, ih]
      rfl

/-- An element before a word becomes the first of this word. -/
theorem Words.words_cons_cons {α : Type} {separates : α → Bool} {first second : α}
    (before : separates first = false) (joined : separates second = false) (rest : List α) :
    ∃ word others, words separates (second :: rest) = word :: others ∧
      words separates (first :: second :: rest) = (first :: word) :: others := by
  cases pieces : cut separates rest with
  | nil => exact absurd pieces (cut_ne_nil separates rest)
  | cons head tail =>
    refine ⟨second :: head, tail.filter (!·.isEmpty), ?_, ?_⟩
    · simp [words, cut, joined, pieces]
    · simp [words, cut, before, joined, pieces]

namespace Text

/-- No blanks but spaces, and no two of them together. -/
def SingleSpaced (text : Text) : Prop :=
  (∀ character ∈ text, isBlank character = true → character = ' ') ∧
    text.IsChain fun left right => ¬(isBlank left = true ∧ isBlank right = true)

/-- One more character in front. A blank is written as a space unless there is a space already. -/
def squeezed (character : Char) (rest : Text) : Text :=
  if isBlank character then if rest.head? = some ' ' then rest else ' ' :: rest
  else character :: rest

/-- The text with each run of blanks folded to one space, those at its ends too. -/
def squeeze (text : Text) : Text := text.foldr squeezed []

theorem squeeze_cons (character : Char) (rest : Text) :
    squeeze (character :: rest) = squeezed character (squeeze rest) := rfl

theorem squeeze_cons_of_not_blank {character : Char} (letter : isBlank character = false)
    (rest : Text) : squeeze (character :: rest) = character :: squeeze rest := by
  simp [squeeze_cons, squeezed, letter]

theorem squeezed_append {letter : Char} (visible : isBlank letter = false) (character : Char)
    (left right : Text) :
    squeezed character (left ++ letter :: right) = squeezed character left ++ letter :: right := by
  have other : letter ≠ ' ' := by
    rintro rfl
    cases visible
  by_cases blank : isBlank character = true
  · cases left with
    | nil => simp [squeezed, blank, other]
    | cons first rest => by_cases space : first = ' ' <;> simp [squeezed, blank, space]
  · simp [squeezed, blank]

/-- Nothing is folded across a character that is not blank. -/
theorem squeeze_append_of_not_blank {letter : Char} (visible : isBlank letter = false)
    (left right : Text) :
    squeeze (left ++ letter :: right) = squeeze left ++ letter :: squeeze right := by
  induction left with
  | nil => exact squeeze_cons_of_not_blank visible right
  | cons first rest ih =>
    rw [List.cons_append, squeeze_cons, ih, squeezed_append visible, squeeze_cons]

theorem mem_of_mem_squeeze {character : Char} {text : Text} (member : character ∈ squeeze text) :
    character = ' ' ∨ character ∈ text := by
  induction text with
  | nil => cases member
  | cons first rest ih =>
    rw [squeeze_cons, squeezed] at member
    grind

theorem head?_squeeze (text : Text) :
    (squeeze text).head? = some ' ' ↔ text.head?.any isBlank = true := by
  cases text with
  | nil => simp [squeeze]
  | cons first rest =>
    cases blank : isBlank first with
    | true =>
      simp only [squeeze_cons, squeezed, blank, if_true, List.head?_cons, Option.any_some, iff_true]
      split
      next spaced => exact spaced
      next => rfl
    | false =>
      rw [squeeze_cons_of_not_blank blank]
      simp only [List.head?_cons, Option.some.injEq, Option.any_some, blank, Bool.false_eq_true,
        iff_false]
      rintro rfl
      cases blank

theorem collapse_cons_of_blank {first : Char} (blank : isBlank first = true) (rest : Text) :
    collapse (first :: rest) = collapse rest := by
  rw [collapse, Words.spaced, Words.words_cons_separator blank]
  rfl

/-- A letter in front of a text stands at its first word, or before a space if there are blanks in
between. -/
theorem collapse_cons_of_not_blank {first : Char} (visible : isBlank first = false) (rest : Text) :
    collapse (first :: rest) = first ::
      (if rest.head?.any isBlank = true ∧ words rest ≠ [] then ' ' :: collapse rest
        else collapse rest) := by
  have alone : Words.words isBlank [first] = [[first]] :=
    Words.words_of_no_separator (List.cons_ne_nil _ _) (List.forall_mem_singleton.mpr visible)
  cases rest with
  | nil => rw [collapse, Words.spaced, alone]; rfl
  | cons second others =>
    cases next : isBlank second with
    | true =>
      have apart : Words.words isBlank (first :: second :: others) =
          [first] :: words (second :: others) := by
        have divided := Words.words_append_separator next [first] others
        rw [alone] at divided
        rw [words, Words.words_cons_separator next]
        exact divided
      rw [collapse, Words.spaced, apart]
      cases following : words (second :: others) with
      | nil =>
        have empty : collapse (second :: others) = [] := congrArg [' '].intercalate following
        simp [empty]
      | cons word more =>
        have shown : collapse (second :: others) = [' '].intercalate (word :: more) :=
          congrArg [' '].intercalate following
        simp [shown, next]
    | false =>
      obtain ⟨word, more, later, longer⟩ := Words.words_cons_cons visible next others
      rw [if_neg (by simp [next]), collapse, collapse, Words.spaced, Words.spaced, later, longer]
      exact List.intercalate_cons_cons_left

/-- Spacing folds all runs of blanks and leaves out those at the ends. -/
theorem squeeze_eq_collapse (text : Text) :
    ∃ trail : Text, (∀ character ∈ trail, isBlank character = true) ∧
      squeeze text = (if text.head?.any isBlank then [' '] else []) ++ collapse text ++ trail := by
  induction text with
  | nil => exact ⟨[], by simp, rfl⟩
  | cons first rest ih =>
    obtain ⟨trail, blanks, folded⟩ := ih
    cases blank : isBlank first with
    | true =>
      refine ⟨trail, blanks, ?_⟩
      rw [collapse_cons_of_blank blank, squeeze_cons, squeezed, if_pos blank]
      by_cases follows : rest.head?.any isBlank = true
      · rw [if_pos ((head?_squeeze rest).mpr follows), folded, if_pos follows]
        simp [blank]
      · rw [if_neg (mt (head?_squeeze rest).mp follows), folded, if_neg follows]
        simp [blank]
    | false =>
      rw [collapse_cons_of_not_blank blank, squeeze_cons_of_not_blank blank, folded]
      by_cases follows : rest.head?.any isBlank = true
      · cases last : words rest with
        | nil =>
          have empty : collapse rest = [] := congrArg [' '].intercalate last
          exact ⟨' ' :: trail, by simpa [isBlank_space] using blanks, by simp [blank, follows, empty]⟩
        | cons => exact ⟨trail, blanks, by simp [blank, follows]⟩
      · exact ⟨trail, blanks, by simp [blank, follows]⟩

/-- A text that begins and ends with a letter keeps its ends. -/
theorem collapse_between_letters {letter : Char} (visible : isBlank letter = false)
    (content : Text) :
    collapse (letter :: content ++ [letter]) = squeeze (letter :: content ++ [letter]) := by
  obtain ⟨trail, blanks, folded⟩ := squeeze_eq_collapse (letter :: content ++ [letter])
  have starts : (letter :: content ++ [letter]).head?.any isBlank = false := visible
  rw [starts, if_neg Bool.false_ne_true, List.nil_append] at folded
  have ends : squeeze (letter :: content ++ [letter]) = letter :: squeeze content ++ [letter] := by
    rw [squeeze_append_of_not_blank visible, squeeze_cons_of_not_blank visible]
    rfl
  rcases List.eq_nil_or_concat trail with rfl | ⟨initial, last, rfl⟩
  · rw [folded, List.append_nil]
  · rw [ends, List.concat_eq_append, ← List.append_assoc] at folded
    have same : letter = last := List.singleton_inj.mp (List.append_inj' folded rfl).2
    have blank : isBlank last = true := blanks last (by simp)
    rw [← same, visible] at blank
    cases blank

theorem length_squeeze_le (text : Text) : (squeeze text).length ≤ text.length := by
  induction text with
  | nil => exact Nat.le_refl 0
  | cons first rest ih =>
    rw [squeeze_cons, squeezed]
    grind

theorem singleSpaced_cons (first : Char) (rest : Text) :
    SingleSpaced (first :: rest) ↔
      (isBlank first = true → first = ' ' ∧ rest.head?.any isBlank = false) ∧ SingleSpaced rest := by
  cases rest with
  | nil => simp [SingleSpaced]
  | cons second others =>
    simp only [SingleSpaced, List.forall_mem_cons, List.isChain_cons_cons, List.head?_cons,
      Option.any_some, ← Bool.not_eq_true]
    tauto

/-- Folding changes nothing exactly if no run of blanks is anything but one space. -/
theorem squeeze_eq_self_iff (text : Text) : squeeze text = text ↔ SingleSpaced text := by
  induction text with
  | nil => simp [squeeze, SingleSpaced]
  | cons first rest ih =>
    rw [singleSpaced_cons, ← ih]
    cases blank : isBlank first with
    | false => simp [squeeze_cons_of_not_blank blank]
    | true =>
      rw [squeeze_cons, squeezed, if_pos blank]
      by_cases follows : rest.head?.any isBlank = true
      · rw [if_pos ((head?_squeeze rest).mpr follows)]
        have shorter : squeeze rest ≠ first :: rest := by
          intro same
          have bound := length_squeeze_le rest
          rw [same, List.length_cons] at bound
          omega
        simp [shorter, follows]
      · rw [if_neg (mt (head?_squeeze rest).mp follows)]
        simp [follows, eq_comm]

end Text

end PreparedCql
