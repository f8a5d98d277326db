import PreparedCql.Proofs.Delimited
import PreparedCql.Proofs.Numerals
import PreparedCql.Value.Literal

/-! The literal of a value can be read back with whatever follows it, as long as a delimiter sets the
rest apart. The kind of a value is told from its literal alone: text and lists from their first
character, the others from the characters of the word. Only the payloads of what is no number are
lost. -/

namespace PreparedCql

namespace Value

/-- The kinds of values. -/
inductive Kind where
  | null
  | bool
  | int
  | float
  | text
  | blob
  | list
deriving DecidableEq

def kind : Value → Kind
  | .null => .null
  | .bool _ => .bool
  | .int _ => .int
  | .float _ => .float
  | .text _ => .text
  | .blob _ => .blob
  | .list _ => .list

/-- The kind of a value by its literal, if this is a word. -/
def kindOfWord (word : Text) : Kind :=
  if word.all fun character => character.isDigit || character == '-' then .int
  else if 'x' ∈ word then .blob
  else if 'U' ∈ word then .null
  else if 'u' ∈ word ∨ 's' ∈ word then .bool
  else .float

/-- The kind of a value by its literal and whatever follows it. -/
def kindOfLiteral (text : Text) : Kind :=
  if text.head? = some '\'' then .text
  else if text.head? = some '[' then .list
  else kindOfWord (text.takeWhile (· ∉ Text.breaks))

theorem kindOfLiteral_append {word rest : Text} (unbroken : word.Word) (delimited : rest.Delimited) :
    kindOfLiteral (word ++ rest) = kindOfWord word := by
  have start {first : Char} (opens : first ∈ Text.breaks) (other : first ∉ Text.delimiters) :
      (word ++ rest).head? ≠ some first := by
    cases word with
    | nil => exact delimited.head?_ne other
    | cons character word =>
      intro head
      exact unbroken character List.mem_cons_self (Option.some.inj head ▸ opens)
  rw [kindOfLiteral, if_neg (start (by decide) (by decide)), if_neg (start (by decide) (by decide)),
    unbroken.takeWhile_append delimited]

/-- The literals of the floats that are not finite. -/
def nonfinite : List Text := ["NaN".toList, "Infinity".toList, "-Infinity".toList]

theorem write_mem_nonfinite {number : Binary64} (infinite : number.isFinite = false) :
    number.write floatLiteral ∈ nonfinite := by
  rcases number.finite_or_infinite_or_nan with finite | bounded | nan
  · cases finite.symm.trans infinite
  · rw [Binary64.write_of_infinite floatLiteral bounded]
    cases number.isNegative <;> decide
  · rw [Binary64.write_of_nan floatLiteral nan]
    exact List.mem_cons_self

theorem mem_floatLiteral {number : Binary64} (finite : number.isFinite = true) {character : Char}
    (member : character ∈ number.write floatLiteral) :
    character.isDigit = true ∨ character ∈ ['-', '.', 'e'] := by
  rcases Binary64.mem_write_of_finite finite member with digit | mark | ⟨plus, -⟩
  · exact .inl digit
  · exact .inr mark
  · cases plus

theorem word_ofInt (number : Int) :
    (Text.ofInt number).Word ∧ kindOfWord (Text.ofInt number) = .int := by
  constructor
  · intro character member
    rcases Text.mem_ofInt member with digit | rfl
    · exact Text.not_mem_breaks_of_isDigit digit
    · decide
  · refine if_pos (List.all_eq_true.mpr fun character member => ?_)
    rw [Bool.or_eq_true, beq_iff_eq]
    exact Text.mem_ofInt member

theorem word_float (number : Binary64) :
    (number.write floatLiteral).Word ∧ kindOfWord (number.write floatLiteral) = .float := by
  cases finite : number.isFinite with
  | false =>
    have all : ∀ text ∈ nonfinite, text.Word ∧ kindOfWord text = .float := by decide
    exact all _ (write_mem_nonfinite finite)
  | true =>
    have letter {character : Char}
        (other : ¬(character.isDigit = true ∨ character ∈ ['-', '.', 'e'])) :
        character ∉ number.write floatLiteral := fun member =>
      other (mem_floatLiteral finite member)
    constructor
    · intro character member
      rcases mem_floatLiteral finite member with digit | mark
      · exact Text.not_mem_breaks_of_isDigit digit
      · have marks : Text.Word ['-', '.', 'e'] := by decide
        exact marks character mark
    · have fractional : ¬((number.write floatLiteral).all fun character =>
          character.isDigit || character == '-') = true := by
        intro all
        rw [List.all_eq_true] at all
        rcases number.point_or_exponent_mem_write floatLiteral finite with point | exponent
        · cases all _ point
        · cases all _ exponent
      rw [kindOfWord, if_neg fractional, if_neg (letter (by decide)), if_neg (letter (by decide)),
        if_neg (not_or.mpr ⟨letter (by decide), letter (by decide)⟩)]

theorem word_blob (bytes : List UInt8) :
    (blob bytes).literal.Word ∧ kindOfWord (blob bytes).literal = .blob := by
  have literal : (blob bytes).literal = '0' :: 'x' :: bytes.flatMap Text.hexByte := by rw [literal]
  rw [literal]
  constructor
  · have digits : Text.Word (bytes.flatMap Text.hexByte) := by
      intro character member
      have all : ∀ number < 16, Nat.digitChar number ∉ Text.breaks := by decide
      obtain ⟨byte, -, digit⟩ := List.mem_flatMap.mp member
      have bound := byte.toNat_lt
      simp only [Text.hexByte, List.mem_cons, List.not_mem_nil, or_false] at digit
      rcases digit with rfl | rfl
      · exact all _ (by omega)
      · exact all _ (by omega)
    exact List.forall_mem_cons.mpr ⟨by decide, List.forall_mem_cons.mpr ⟨by decide, digits⟩⟩
  · have letter : 'x' ∈ '0' :: 'x' :: bytes.flatMap Text.hexByte := by simp
    have notInt : ¬(('0' :: 'x' :: bytes.flatMap Text.hexByte).all fun character =>
        character.isDigit || character == '-') = true := by
      intro all
      cases List.all_eq_true.mp all _ letter
    rw [kindOfWord, if_neg notInt, if_pos letter]

/-- The literals of all kinds but text and lists are words that show the kind. -/
theorem word_literal {value : Value} (text : value.kind ≠ .text) (list : value.kind ≠ .list) :
    value.literal.Word ∧ kindOfWord value.literal = value.kind := by
  cases value with
  | null => exact ⟨by decide, rfl⟩
  | bool flag => cases flag <;> exact ⟨by decide, rfl⟩
  | int number => exact word_ofInt number.toInt
  | float number => exact word_float number
  | text content => exact absurd rfl text
  | blob bytes => exact word_blob bytes
  | list items => exact absurd rfl list

theorem text_or_list_or_word (value : Value) :
    (∃ content, value = .text content) ∨ (∃ items, value = .list items) ∨
      value.literal.Word ∧ kindOfWord value.literal = value.kind := by
  cases value with
  | text content => exact .inl ⟨content, rfl⟩
  | list items => exact .inr (.inl ⟨items, rfl⟩)
  | _ => exact .inr (.inr (word_literal nofun nofun))

theorem kindOfLiteral_literal_append (value : Value) {rest : Text} (delimited : rest.Delimited) :
    kindOfLiteral (value.literal ++ rest) = value.kind := by
  rcases value.text_or_list_or_word with ⟨content, rfl⟩ | ⟨items, rfl⟩ | ⟨unbroken, shown⟩
  · rfl
  · rw [literal_list]
    rfl
  · rw [kindOfLiteral_append unbroken delimited, shown]

theorem kind_eq_of_literal {value other : Value} {left right : Text} (delimited : left.Delimited)
    (delimited' : right.Delimited) (same : value.literal ++ left = other.literal ++ right) :
    value.kind = other.kind := by
  rw [← kindOfLiteral_literal_append value delimited, same,
    kindOfLiteral_literal_append other delimited']

/-- A literal is not empty and does not start like the end of a list. -/
theorem exists_cons_literal (value : Value) :
    ∃ first rest, value.literal = first :: rest ∧ first ≠ ']' := by
  rcases value.text_or_list_or_word with ⟨content, rfl⟩ | ⟨items, rfl⟩ | ⟨unbroken, shown⟩
  · exact ⟨'\'', _, rfl, by decide⟩
  · exact ⟨'[', _, literal_list items, by decide⟩
  · cases literal : value.literal with
    | nil =>
      -- Nothing but digits and signs, so the value could only be an integer.
      rw [literal] at shown
      cases value with
      | int number => exact absurd literal (Text.ofInt_ne_nil _)
      | _ => cases shown
    | cons first rest =>
      refine ⟨first, rest, rfl, ?_⟩
      rintro rfl
      exact unbroken ']' (literal ▸ List.mem_cons_self) (by decide)

/-- Values that are the same but for the payloads of what is no number. -/
inductive EqUpToNaN : Value → Value → Prop where
  | same (value : Value) : EqUpToNaN value value
  | nan {left right : Binary64} (first : left.isNaN = true) (second : right.isNaN = true) :
      EqUpToNaN (.float left) (.float right)
  | list {lefts rights : List Value} (items : List.Forall₂ EqUpToNaN lefts rights) :
      EqUpToNaN (.list lefts) (.list rights)

theorem eqUpToNaN_of_write_nonfinite {left right : Binary64}
    (first : left.isInfinite = true ∨ left.isNaN = true)
    (second : right.isInfinite = true ∨ right.isNaN = true)
    (same : left.write floatLiteral = right.write floatLiteral) :
    (float left).EqUpToNaN (float right) := by
  have words {number other : Binary64} (nan : number.isNaN = true)
      (infinite : other.isInfinite = true) :
      number.write floatLiteral ≠ other.write floatLiteral := by
    rw [Binary64.write_of_nan floatLiteral nan, Binary64.write_of_infinite floatLiteral infinite]
    cases other.isNegative <;> decide
  rcases first with infinite | nan
  · rcases second with infinite' | nan'
    · have sign : left.isNegative = right.isNegative := by
        rw [Binary64.write_of_infinite floatLiteral infinite,
          Binary64.write_of_infinite floatLiteral infinite'] at same
        revert same
        cases left.isNegative <;> cases right.isNegative <;> decide
      have ordinals : left.ordinal = right.ordinal :=
        (of_decide_eq_true infinite).trans (of_decide_eq_true infinite').symm
      exact Binary64.eq_of_sign_ordinal sign ordinals ▸ .same _
    · exact absurd same.symm (words nan' infinite)
  · rcases second with infinite' | nan'
    · exact absurd same (words nan infinite')
    · exact .nan nan nan'

theorem eqUpToNaN_of_write {left right : Binary64}
    (same : left.write floatLiteral = right.write floatLiteral) :
    (float left).EqUpToNaN (float right) := by
  have fractional {number other : Binary64} (finite : number.isFinite = true)
      (infinite : other.isFinite = false) :
      number.write floatLiteral ≠ other.write floatLiteral := by
    intro same
    have whole : ∀ text ∈ nonfinite, '.' ∉ text ∧ 'e' ∉ text := by decide
    obtain ⟨noPoint, noExponent⟩ := whole _ (write_mem_nonfinite infinite)
    rcases number.point_or_exponent_mem_write floatLiteral finite with point | exponent
    · exact noPoint (same ▸ point)
    · exact noExponent (same ▸ exponent)
  have others {number : Binary64} (infinite : number.isFinite = false) :
      number.isInfinite = true ∨ number.isNaN = true :=
    number.finite_or_infinite_or_nan.resolve_left (by simp [infinite])
  cases finite : left.isFinite with
  | true =>
    cases finite' : right.isFinite with
    | true => exact Binary64.write_injective finite finite' same ▸ .same _
    | false => exact absurd same (fractional finite finite')
  | false =>
    cases finite' : right.isFinite with
    | true => exact absurd same.symm (fractional finite' finite)
    | false => exact eqUpToNaN_of_write_nonfinite (others finite) (others finite') same

/-- A value whose literal is a word can be read if its kind and its literal tell it. -/
theorem reads_word (value : Value) (text : value.kind ≠ .text) (list : value.kind ≠ .list)
    (told : ∀ other : Value, value.kind = other.kind → value.literal = other.literal →
      value.EqUpToNaN other) : Text.Reads literal EqUpToNaN value := by
  intro other left right delimited delimited' same
  have kinds := kind_eq_of_literal delimited delimited' same
  obtain ⟨unbroken, -⟩ := word_literal text list
  obtain ⟨unbroken', -⟩ := word_literal (kinds ▸ text) (kinds ▸ list)
  obtain ⟨literals, ends⟩ := unbroken.append_inj unbroken' delimited delimited' same
  exact ⟨told other kinds literals, ends⟩

theorem reads_text (content : Text) : Text.Reads literal EqUpToNaN (text content) := by
  intro other left right delimited delimited' same
  have kinds := kind_eq_of_literal delimited delimited' same
  have quote : '\'' ∉ Text.delimiters := by decide
  cases other with
  | text content' =>
    simp only [literal, Text.quoted, List.cons_append, List.append_assoc, List.nil_append] at same
    obtain ⟨contents, ends⟩ := Text.doubleQuotes_append_inj (delimited.head?_ne quote)
      (delimited'.head?_ne quote) (List.tail_eq_of_cons_eq same)
    exact ⟨contents ▸ .same _, ends⟩
  | _ => cases kinds

/-- A list is read item by item. -/
theorem reads_list {items : List Value} (reads : ∀ item ∈ items, Text.Reads literal EqUpToNaN item) :
    Text.Reads literal EqUpToNaN (list items) := by
  intro other left right delimited delimited' same
  have kinds := kind_eq_of_literal delimited delimited' same
  cases other with
  | list others =>
    simp only [literal_list, List.cons_append, List.append_assoc, List.nil_append] at same
    obtain ⟨pairs, ends⟩ := Text.forall₂_of_bracketed [' '] reads exists_cons_literal
      (List.tail_eq_of_cons_eq same)
    exact ⟨.list pairs, ends⟩
  | _ => cases kinds

theorem reads_literal (value : Value) : Text.Reads literal EqUpToNaN value := by
  induction value using inductionOnItems with
  | list items ih => exact reads_list ih
  | text content => exact reads_text content
  | null =>
    refine reads_word .null nofun nofun fun other kinds literals => ?_
    cases other with
    | null => exact .same _
    | _ => cases kinds
  | bool flag =>
    refine reads_word (.bool flag) nofun nofun fun other kinds literals => ?_
    cases other with
    | bool flag' =>
      have flags : flag = flag' := by
        revert literals
        cases flag <;> cases flag' <;> decide
      exact flags ▸ .same _
    | _ => cases kinds
  | int number =>
    refine reads_word (.int number) nofun nofun fun other kinds literals => ?_
    cases other with
    | int number' =>
      have numbers : number = number' := Int64.toInt_inj.mp (Text.ofInt_injective literals)
      exact numbers ▸ .same _
    | _ => cases kinds
  | float number =>
    refine reads_word (.float number) nofun nofun fun other kinds literals => ?_
    cases other with
    | float number' => exact eqUpToNaN_of_write literals
    | _ => cases kinds
  | blob bytes =>
    refine reads_word (.blob bytes) nofun nofun fun other kinds literals => ?_
    cases other with
    | blob bytes' =>
      simp only [literal, List.cons.injEq, true_and] at literals
      exact Text.hexBytes_injective literals ▸ .same _
    | _ => cases kinds

/-- The payloads that a value loses do not show in its literal. -/
theorem EqUpToNaN.literal_eq {value other : Value} (equal : value.EqUpToNaN other) :
    value.literal = other.literal := by
  induction value using inductionOnItems generalizing other with
  | float number =>
    cases equal with
    | same => rfl
    | nan first second =>
      exact (Binary64.write_of_nan floatLiteral first).trans
        (Binary64.write_of_nan floatLiteral second).symm
  | list items ih =>
    cases equal with
    | same => rfl
    | @list _ others pairs =>
      have both := (List.forall₂_and_left _ _).mpr ⟨ih, pairs⟩
      have literals : List.Forall₂ (fun left right => left.literal = right.literal) items others :=
        both.imp fun _ _ pair => pair.1 pair.2
      have lists : items.map literal = others.map literal := by
        rwa [← List.forall₂_eq_eq_eq, List.forall₂_map_left_iff, List.forall₂_map_right_iff]
      rw [literal_list, literal_list, lists]
  | _ => cases equal with | same => rfl

/-- A literal is told from any other, and from what a delimiter sets apart behind it, and so is its
value but for the payloads of what is no number. No float is written like an integer. -/
theorem literal_uniquely_readable :
    (∀ (value other : Value) (left right : Text), left.Delimited → right.Delimited →
      value.literal ++ left = other.literal ++ right → left = right ∧ value.EqUpToNaN other) ∧
    (∀ value other : Value, value.literal = other.literal ↔ value.EqUpToNaN other) ∧
    ∀ (number : Binary64) (integer : Int64), (float number).literal ≠ (int integer).literal := by
  have nothing : Text.Delimited [] := trivial
  refine ⟨?_, ?_, ?_⟩
  · intro value other left right delimited delimited' same
    exact (value.reads_literal delimited delimited' same).symm
  · intro value other
    refine ⟨fun same => ?_, EqUpToNaN.literal_eq⟩
    have ends : value.literal ++ [] = other.literal ++ [] := congrArg (· ++ []) same
    exact (value.reads_literal nothing nothing ends).1
  · intro number integer same
    have ends : (float number).literal ++ [] = (int integer).literal ++ [] := congrArg (· ++ []) same
    cases kind_eq_of_literal nothing nothing ends

/-- Two lists that differ in a payload only, with a quote, a comma and brackets inside. -/
theorem literal_uniquely_readable_list :
    let value := list [.text "it's, ]".toList, .blob [10], .list [], .float ⟨0x7FF8000000000000⟩]
    let other := list [.text "it's, ]".toList, .blob [10], .list [], .float ⟨0xFFF8000000000001⟩]
    let rest : Text := ") AND b = 'x'".toList
    (rest.Delimited ∧
      value.literal ++ rest = "['it''s, ]', 0x0a, [], NaN]) AND b = 'x'".toList ∧
      other.literal ++ rest = "['it''s, ]', 0x0a, [], NaN]) AND b = 'x'".toList) ∧
    rest = rest ∧ value.EqUpToNaN other := by
  intro value other rest
  have delimited : rest.Delimited := by decide
  have shown : value.literal ++ rest = "['it''s, ]', 0x0a, [], NaN]) AND b = 'x'".toList := by decide
  have shown' : other.literal ++ rest = "['it''s, ]', 0x0a, [], NaN]) AND b = 'x'".toList := by decide
  exact ⟨⟨delimited, shown, shown'⟩, literal_uniquely_readable.1 value other rest rest delimited
    delimited (shown.trans shown'.symm)⟩

end Value

end PreparedCql
