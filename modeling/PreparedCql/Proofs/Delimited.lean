import Mathlib.Data.List.Forall2
import Mathlib.Data.List.TakeWhile
import PreparedCql.Text.Quoted

/-! Where pieces of a text end. A word ends at the first delimiter, quoted text at the first quote
that is not doubled, and a list in brackets at the first closing bracket behind an item, so each of
them can be told from whatever follows it. -/

namespace PreparedCql

namespace Text

/-- What may stand behind a literal in the text of a statement. -/
def delimiters : List Char := [' ', ',', ')', ']']

/-- Nothing follows, or a delimiter does. -/
def Delimited : Text → Prop
  | [] => True
  | first :: _ => first ∈ delimiters

instance : DecidablePred Delimited
  | [] => isTrue trivial
  | _ :: _ => List.instDecidableMemOfLawfulBEq _ _

/-- What breaks off a word: a delimiter, a quote or an opening bracket. -/
def breaks : List Char := '\'' :: '[' :: delimiters

def Word (text : Text) : Prop := ∀ character ∈ text, character ∉ breaks

instance : DecidablePred Word := fun text => List.decidableBAll _ text

theorem not_mem_breaks_of_isDigit {character : Char} (digit : character.isDigit = true) :
    character ∉ breaks := by
  have others : breaks.all (fun other => !other.isDigit) = true := rfl
  intro member
  have other := List.all_eq_true.mp others character member
  simp [digit] at other

theorem Delimited.mem_breaks {first : Char} {rest : Text} (delimited : Delimited (first :: rest)) :
    first ∈ breaks :=
  List.mem_cons_of_mem _ (List.mem_cons_of_mem _ delimited)

theorem Delimited.head?_ne {rest : Text} (delimited : rest.Delimited) {first : Char}
    (other : first ∉ delimiters) : rest.head? ≠ some first := by
  intro head
  cases rest with
  | nil => cases head
  | cons delimiter rest => exact other (Option.some.inj head ▸ delimited)

/-- Up to its first break a text is the word that it starts with. -/
theorem Word.takeWhile_append {word rest : Text} (unbroken : word.Word) (delimited : rest.Delimited) :
    (word ++ rest).takeWhile (· ∉ breaks) = word := by
  have all : ∀ character ∈ word, decide (character ∉ breaks) = true := fun character member =>
    decide_eq_true (unbroken character member)
  rw [List.takeWhile_append_of_pos all]
  cases rest with
  | nil => exact List.append_nil word
  | cons first rest =>
    have stop := delimited.mem_breaks
    rw [List.takeWhile_cons_of_neg (by simpa using stop), List.append_nil]

theorem Word.append_inj {first second left right : Text} (unbroken : first.Word)
    (unbroken' : second.Word) (delimited : left.Delimited) (delimited' : right.Delimited)
    (same : first ++ left = second ++ right) : first = second ∧ left = right := by
  have words : first = second := by
    rw [← unbroken.takeWhile_append delimited, same, unbroken'.takeWhile_append delimited']
  rw [words] at same
  exact ⟨words, List.append_cancel_left same⟩

theorem head?_doubleQuotes_cons (character : Char) (content rest : Text) :
    (doubleQuotes (character :: content) ++ rest).head? = some character := by
  by_cases quote : character = '\'' <;> simp [doubleQuotes, quote]

/-- What starts like a closing quote within quoted text is the first of two quotes. -/
theorem head?_of_quote_within {character : Char} {content left right : Text}
    (same : '\'' :: left = doubleQuotes (character :: content) ++ right) :
    left.head? = some '\'' := by
  have heads := (congrArg List.head? same).trans (head?_doubleQuotes_cons character content right)
  obtain rfl : '\'' = character := Option.some.inj heads
  rw [List.tail_eq_of_cons_eq same]
  rfl

/-- Quoted text ends at the first quote that is not doubled. -/
theorem doubleQuotes_append_inj {first second left right : Text} (closed : left.head? ≠ some '\'')
    (closed' : right.head? ≠ some '\'')
    (same : doubleQuotes first ++ '\'' :: left = doubleQuotes second ++ '\'' :: right) :
    first = second ∧ left = right := by
  induction first generalizing second with
  | nil =>
    cases second with
    | nil => exact ⟨rfl, List.tail_eq_of_cons_eq same⟩
    | cons character second => exact absurd (head?_of_quote_within same) closed
  | cons character first ih =>
    cases second with
    | nil => exact absurd (head?_of_quote_within same.symm) closed'
    | cons other second =>
      have characters : character = other := by
        have heads := congrArg List.head? same
        rw [head?_doubleQuotes_cons, head?_doubleQuotes_cons] at heads
        exact Option.some.inj heads
      subst characters
      have rest : doubleQuotes first ++ '\'' :: left = doubleQuotes second ++ '\'' :: right := by
        simpa only [doubleQuotes, List.flatMap_cons, List.append_assoc, List.append_cancel_left_eq]
          using same
      obtain ⟨contents, ends⟩ := ih rest
      exact ⟨congrArg (character :: ·) contents, ends⟩

theorem digitChar_injective {left right : Nat} (small : left < 16) (small' : right < 16)
    (same : Nat.digitChar left = Nat.digitChar right) : left = right := by
  have all : ∀ left < 16, ∀ right < 16, Nat.digitChar left = Nat.digitChar right → left = right := by
    decide
  exact all left small right small' same

theorem hexByte_injective {left right : UInt8} (same : hexByte left = hexByte right) :
    left = right := by
  have bound := left.toNat_lt
  have bound' := right.toNat_lt
  obtain ⟨highs, rest⟩ := List.cons.inj same
  have high := digitChar_injective (by omega) (by omega) highs
  have low := digitChar_injective (by omega) (by omega) (List.head_eq_of_cons_eq rest)
  exact UInt8.toNat_inj.mp (by omega)

theorem hexBytes_injective {left right : List UInt8}
    (same : left.flatMap hexByte = right.flatMap hexByte) : left = right := by
  induction left generalizing right with
  | nil =>
    cases right with
    | nil => rfl
    | cons byte right => cases same
  | cons byte left ih =>
    cases right with
    | nil => cases same
    | cons other right =>
      rw [List.flatMap_cons, List.flatMap_cons] at same
      obtain ⟨bytes, rest⟩ := List.append_inj same rfl
      rw [hexByte_injective bytes, ih rest]

section Lists

variable {α : Type} {write : α → Text} {alike : α → α → Prop}

/-- An element can be told from its text with anything behind it that a delimiter sets apart, up to
elements that are alike. -/
def Reads (write : α → Text) (alike : α → α → Prop) (item : α) : Prop :=
  ∀ {other : α} {left right : Text}, left.Delimited → right.Delimited →
    write item ++ left = write other ++ right → alike item other ∧ left = right

/-- Further items of a list, each behind its separator, the closing bracket and whatever follows. -/
def closing (separator : Text) (write : α → Text) : List α → Text → Text
  | [], rest => ']' :: rest
  | item :: items, rest => separator ++ (write item ++ closing separator write items rest)

theorem intercalate_append_bracket (separator : Text) (write : α → Text) (item : α) (items : List α)
    (rest : Text) :
    separator.intercalate ((item :: items).map write) ++ ']' :: rest =
      write item ++ closing separator write items rest := by
  induction items generalizing item with
  | nil => rw [List.map_singleton, List.intercalate_singleton, closing]
  | cons second items ih =>
    rw [List.map_cons, List.map_cons, List.intercalate_cons_cons, List.append_assoc,
      List.append_assoc, ← List.map_cons, ih, closing]

theorem delimited_closing (blanks : Text) (write : α → Text) (items : List α) (rest : Text) :
    (closing (',' :: blanks) write items rest).Delimited := by
  cases items with
  | nil => exact (by decide : ']' ∈ delimiters)
  | cons => exact (by decide : ',' ∈ delimiters)

theorem forall₂_of_closing {blanks : Text} {items others : List α} {left right : Text}
    (reads : ∀ item ∈ items, Reads write alike item)
    (same : closing (',' :: blanks) write items left = closing (',' :: blanks) write others right) :
    List.Forall₂ alike items others ∧ left = right := by
  induction items generalizing others with
  | nil =>
    cases others with
    | nil => exact ⟨.nil, List.tail_eq_of_cons_eq same⟩
    | cons other others => exact absurd (List.head_eq_of_cons_eq same) (by decide)
  | cons item items ih =>
    cases others with
    | nil => exact absurd (List.head_eq_of_cons_eq same) (by decide)
    | cons other others =>
      obtain ⟨head, tail⟩ := List.forall_mem_cons.mp reads
      obtain ⟨first, rest⟩ := head (delimited_closing _ _ _ _) (delimited_closing _ _ _ _)
        (List.append_cancel_left same)
      obtain ⟨further, ends⟩ := ih tail rest
      exact ⟨.cons first further, ends⟩

/-- Items in brackets are told from their texts if each of them is and none starts like a bracket that
closes. -/
theorem forall₂_of_bracketed (blanks : Text) {items others : List α} {left right : Text}
    (reads : ∀ item ∈ items, Reads write alike item)
    (opens : ∀ item, ∃ first rest, write item = first :: rest ∧ first ≠ ']')
    (same : (',' :: blanks).intercalate (items.map write) ++ ']' :: left =
      (',' :: blanks).intercalate (others.map write) ++ ']' :: right) :
    List.Forall₂ alike items others ∧ left = right := by
  have bracket (item : α) (rest more : Text) : ']' :: rest ≠ write item ++ more := by
    obtain ⟨first, tail, text, other⟩ := opens item
    rw [text]
    exact fun closed => other (List.head_eq_of_cons_eq closed).symm
  cases items with
  | nil =>
    cases others with
    | nil => exact ⟨.nil, List.tail_eq_of_cons_eq same⟩
    | cons other others =>
      rw [intercalate_append_bracket] at same
      exact absurd same (bracket other _ _)
  | cons item items =>
    cases others with
    | nil =>
      rw [intercalate_append_bracket] at same
      exact absurd same.symm (bracket item _ _)
    | cons other others =>
      rw [intercalate_append_bracket, intercalate_append_bracket] at same
      obtain ⟨head, tail⟩ := List.forall_mem_cons.mp reads
      obtain ⟨first, rest⟩ := head (delimited_closing _ _ _ _) (delimited_closing _ _ _ _) same
      obtain ⟨further, ends⟩ := forall₂_of_closing tail rest
      exact ⟨.cons first further, ends⟩

end Lists

end Text

end PreparedCql
