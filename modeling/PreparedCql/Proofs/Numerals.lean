import Mathlib
import PreparedCql.Binary64.Layout

/-! Numerals can be read back. An integer is told from its digits and sign. A finite number is told
from its text in any layout: an exponent shows the way it is written, the point or the exponent then
gives the decimal, and no two numbers have a shortest decimal of the same size. -/

namespace PreparedCql

namespace Text

/-- Every character is a decimal digit. -/
def Digits (text : Text) : Prop := ∀ character ∈ text, character.isDigit = true

/-- The number that decimal digits stand for. -/
def value (digits : Text) : Nat := Nat.ofDigitChars 10 digits 0

theorem value_append (first second : Text) :
    value (first ++ second) = value first * 10 ^ second.length + value second := by
  unfold value
  rw [Nat.ofDigitChars_append, Nat.ofDigitChars_eq_ofDigitChars_zero, Nat.mul_comm]

theorem value_zeros (count : Nat) : value (List.replicate count '0') = 0 := by
  rw [value, Nat.ofDigitChars_replicate_zero, Nat.mul_zero]

theorem value_append_zeros (digits : Text) (count : Nat) :
    value (digits ++ List.replicate count '0') = value digits * 10 ^ count := by
  rw [value_append, value_zeros, List.length_replicate, Nat.add_zero]

theorem value_zeros_append (digits : Text) (count : Nat) :
    value (List.replicate count '0' ++ digits) = value digits := by
  rw [value_append, value_zeros, Nat.zero_mul, Nat.zero_add]

theorem Digits.append {first second : Text} (left : first.Digits) (right : second.Digits) :
    (first ++ second).Digits :=
  List.forall_mem_append.mpr ⟨left, right⟩

theorem digits_zeros (count : Nat) : Digits (List.replicate count '0') := by
  intro character member
  rw [List.eq_of_mem_replicate member]
  rfl

/-- A character that is no digit does not occur among digits. -/
theorem Digits.not_mem {text : Text} (digits : text.Digits) {character : Char}
    (other : character.isDigit = false) : character ∉ text := fun member =>
  Bool.noConfusion ((digits character member).symm.trans other)

theorem digits_ofNat (number : Nat) : (ofNat number).Digits := fun _ =>
  Nat.isDigit_of_mem_toDigits (by decide) (by decide)

theorem value_ofNat (number : Nat) : value (ofNat number) = number :=
  Nat.ofDigitChars_toDigits (by decide) (by decide)

theorem ofNat_injective {left right : Nat} (same : ofNat left = ofNat right) : left = right := by
  rw [← value_ofNat left, same, value_ofNat]

/-- The first character of a natural number is no sign. -/
theorem ofNat_ne_cons {number : Nat} {character : Char} {rest : Text}
    (other : character.isDigit = false) : ofNat number ≠ character :: rest := by
  intro same
  exact (digits_ofNat number).not_mem other (same ▸ List.mem_cons_self)

theorem ofInt_injective {left right : Int} (same : ofInt left = ofInt right) : left = right := by
  cases left with
  | ofNat left =>
    cases right with
    | ofNat right => exact congrArg Int.ofNat (ofNat_injective same)
    | negSucc right => exact absurd same (ofNat_ne_cons rfl)
  | negSucc left =>
    cases right with
    | ofNat right => exact absurd same.symm (ofNat_ne_cons rfl)
    | negSucc right =>
      have numbers := ofNat_injective (List.tail_eq_of_cons_eq same)
      exact congrArg Int.negSucc (Nat.succ.inj numbers)

theorem ofInt_ne_nil (number : Int) : ofInt number ≠ [] := by
  cases number with
  | ofNat number => exact ofNat_ne_nil number
  | negSucc number => exact List.cons_ne_nil _ _

theorem mem_ofInt {number : Int} {character : Char} (member : character ∈ ofInt number) :
    character.isDigit = true ∨ character = '-' := by
  cases number with
  | ofNat number => exact .inl (digits_ofNat number character member)
  | negSucc number =>
    rcases List.mem_cons.mp member with sign | digit
    · exact .inr sign
    · exact .inl (digits_ofNat _ character digit)

end Text

namespace Binary64

theorem withoutTrailingZeros_append_zeros (digits : Text) :
    ∃ count, digits = withoutTrailingZeros digits ++ List.replicate count '0' := by
  let trail := digits.reverse.takeWhile (· == '0')
  have zeros : trail = List.replicate trail.length '0' := by
    refine List.eq_replicate_iff.mpr ⟨rfl, fun character member => ?_⟩
    have zero : (character == '0') = true := List.mem_takeWhile_imp (p := (· == '0')) member
    exact eq_of_beq zero
  refine ⟨trail.length, ?_⟩
  calc digits = (trail ++ digits.reverse.dropWhile (· == '0')).reverse := by
        rw [List.takeWhile_append_dropWhile, List.reverse_reverse]
    _ = withoutTrailingZeros digits ++ trail.reverse := List.reverse_append
    _ = withoutTrailingZeros digits ++ (List.replicate trail.length '0').reverse := by rw [← zeros]
    _ = withoutTrailingZeros digits ++ List.replicate trail.length '0' := by
        rw [List.reverse_replicate]

namespace Decimal

/-- There are digits, and the last of them counts a whole number of units of `10 ^ (-1075)`. -/
structure Whole (decimal : Decimal) : Prop where
  digits : decimal.digits.Digits
  nonempty : decimal.digits ≠ []
  fits : (decimal.digits.length : Int) ≤ decimal.exponent + 1076

/-- The number one in units of `10 ^ (-1075)`. -/
def one : Nat := Nat.pow 10 1075

/-- The size of the decimal in units of `10 ^ (-1075)`. -/
def units (decimal : Decimal) : Nat :=
  decimal.digits.value * 10 ^ (decimal.exponent + 1076 - decimal.digits.length).toNat

end Decimal

theorem holds_zero : (spanAt 0).holds 0 = true := by
  have value : (spanAt 0).value = 0 := by simp [spanAt, magnitude]
  have inside := spanAt_holds_value 0
  rwa [value] at inside

theorem shortest_ne_zero {number : Binary64} (nonzero : number.isZero = false) (tie : Tie) :
    number.shortest tie ≠ 0 := by
  intro none
  have inside := holds_shortest number tie
  rw [none] at inside
  have ordinal : number.ordinal = 0 := eq_of_holds inside holds_zero
  simp [isZero, ordinal] at nonzero

theorem decimal_of_not_zero {number : Binary64} (nonzero : number.isZero = false) (tie : Tie) :
    (number.decimal tie).Whole ∧ (number.decimal tie).units = number.shortest tie := by
  have written : number.decimal tie = ⟨withoutTrailingZeros (Text.ofNat (number.shortest tie)),
      ((Text.ofNat (number.shortest tie)).length : Int) - 1076⟩ := by
    simp [decimal, nonzero]
  obtain ⟨count, zeros⟩ := withoutTrailingZeros_append_zeros (Text.ofNat (number.shortest tie))
  have all := Text.digits_ofNat (number.shortest tie)
  have size := Text.value_ofNat (number.shortest tie)
  have positive := shortest_ne_zero nonzero tie
  rw [written]
  generalize withoutTrailingZeros (Text.ofNat (number.shortest tie)) = digits at zeros ⊢
  rw [zeros] at all size ⊢
  rw [Text.value_append_zeros] at size
  have places : (((digits ++ List.replicate count '0').length : Int) - 1076 + 1076 -
      digits.length).toNat = count := by
    rw [List.length_append, List.length_replicate]
    omega
  refine ⟨⟨(List.forall_mem_append.mp all).1, ?_, ?_⟩, ?_⟩
  · rintro rfl
    exact positive (size.symm.trans (Nat.zero_mul _))
  · simp only [List.length_append]
    omega
  · rw [Decimal.units, places, size]

theorem decimal_of_zero {number : Binary64} (zero : number.isZero = true) (tie : Tie) :
    number.decimal tie = ⟨['0'], 0⟩ := by
  simp [decimal, zero]

theorem whole_decimal (number : Binary64) (tie : Tie) : (number.decimal tie).Whole := by
  cases zero : number.isZero with
  | true =>
    rw [decimal_of_zero zero]
    exact ⟨Text.digits_zeros 1, List.cons_ne_nil _ _, by decide⟩
  | false => exact (decimal_of_not_zero zero tie).1

/-- The decimal of a number lies among the reals that round to this number. -/
theorem holds_units (number : Binary64) (tie : Tie) :
    (spanAt number.ordinal).holds (number.decimal tie).units = true := by
  cases zero : number.isZero with
  | true =>
    have ordinal : number.ordinal = 0 := of_decide_eq_true zero
    have none : (number.decimal tie).units = 0 := by
      have value : Text.value ['0'] = 0 := Text.value_zeros 1
      rw [decimal_of_zero zero, Decimal.units, value, Nat.zero_mul]
    rw [ordinal, none]
    exact holds_zero
  | false =>
    rw [(decimal_of_not_zero zero tie).2]
    exact holds_shortest number tie

/-- Numbers of one sign whose decimals have the same size are the same. -/
theorem eq_of_units {left right : Binary64} {tie : Tie} (sign : left.isNegative = right.isNegative)
    (size : (left.decimal tie).units = (right.decimal tie).units) : left = right := by
  have inside := holds_units left tie
  rw [size] at inside
  exact eq_of_sign_ordinal sign (eq_of_holds inside (holds_units right tie))

namespace Layout

/-- Digits before and after a point that have the size of the decimal. -/
structure Pointed (decimal : Decimal) (before after : Text) : Prop where
  nonempty : before ≠ []
  before_digits : before.Digits
  after_digits : after.Digits
  size : Text.value (before ++ after) * Decimal.one = decimal.units * 10 ^ after.length

/-- Zeros behind the digits and places behind the point move the point to where it belongs. -/
theorem units_scaled (digits : Text) (exponent : Int) {padding places : Nat}
    (power : padding + 1075 = (exponent + 1076 - digits.length).toNat + places) :
    digits.value * 10 ^ padding * Decimal.one =
      Decimal.units ⟨digits, exponent⟩ * 10 ^ places := by
  unfold Decimal.units Decimal.one
  generalize 1075 = scale at power
  rw [Nat.pow_eq, Nat.mul_assoc, Nat.mul_assoc, ← Nat.pow_add, ← Nat.pow_add, power]

/-- All digits stand before the point, and zeros up to the units. -/
theorem pointed_of_short {digits : Text} {exponent : Nat}
    (whole : Decimal.Whole ⟨digits, .ofNat exponent⟩) (short : digits.length ≤ exponent + 1) :
    let before := digits ++ List.replicate (exponent + 1 - digits.length) '0'
    plain ⟨digits, .ofNat exponent⟩ = before ++ '.' :: ['0'] ∧
      Pointed ⟨digits, .ofNat exponent⟩ before ['0'] := by
  intro before
  constructor
  · simp [before, plain, List.take_of_length_le short, List.drop_of_length_le short]
  · refine ⟨List.append_ne_nil_of_left_ne_nil whole.nonempty _,
      whole.digits.append (Text.digits_zeros _), Text.digits_zeros 1, ?_⟩
    have padded : before ++ ['0'] =
        digits ++ List.replicate (exponent + 1 - digits.length + 1) '0' := by
      rw [← List.replicate_append_replicate, ← List.append_assoc]
      rfl
    rw [padded, Text.value_append_zeros]
    refine units_scaled digits _ ?_
    simp only [Int.ofNat_eq_natCast, List.length_singleton]
    omega

/-- The point stands among the digits. -/
theorem pointed_of_long {digits : Text} {exponent : Nat}
    (whole : Decimal.Whole ⟨digits, .ofNat exponent⟩) (long : exponent + 1 < digits.length) :
    plain ⟨digits, .ofNat exponent⟩ =
        digits.take (exponent + 1) ++ '.' :: digits.drop (exponent + 1) ∧
      Pointed ⟨digits, .ofNat exponent⟩ (digits.take (exponent + 1))
        (digits.drop (exponent + 1)) := by
  have split := whole.digits
  rw [← List.take_append_drop (exponent + 1) digits] at split
  obtain ⟨before, after⟩ := List.forall_mem_append.mp split
  constructor
  · have rest : (digits.drop (exponent + 1)).isEmpty = false := by
      rw [List.isEmpty_eq_false_iff, ← List.length_pos_iff, List.length_drop]
      omega
    have taken : min (exponent + 1) digits.length = exponent + 1 := by omega
    simp [plain, rest, taken]
  · have fits := whole.fits
    refine ⟨by simp [whole.nonempty], before, after, ?_⟩
    rw [List.take_append_drop, ← Nat.mul_one digits.value, ← Nat.pow_zero 10]
    refine units_scaled digits _ ?_
    simp only [Int.ofNat_eq_natCast, List.length_drop] at fits ⊢
    omega

/-- All digits stand behind the point, and zeros down to the first of them. -/
theorem pointed_of_fraction {digits : Text} {zeros : Nat}
    (whole : Decimal.Whole ⟨digits, .negSucc zeros⟩) :
    Pointed ⟨digits, .negSucc zeros⟩ ['0'] (List.replicate zeros '0' ++ digits) := by
  have fits := whole.fits
  refine ⟨List.cons_ne_nil _ _, Text.digits_zeros 1,
    (Text.digits_zeros zeros).append whole.digits, ?_⟩
  have size : Text.value (['0'] ++ (List.replicate zeros '0' ++ digits)) = digits.value :=
    (Text.value_zeros_append _ 1).trans (Text.value_zeros_append digits zeros)
  rw [size, ← Nat.mul_one digits.value, ← Nat.pow_zero 10]
  refine units_scaled digits _ ?_
  rw [List.length_append, List.length_replicate]
  dsimp only at fits ⊢
  omega

/-- A decimal that is written without an exponent keeps its size, whichever side of the point its
digits are on. -/
theorem exists_pointed {decimal : Decimal} (whole : decimal.Whole) :
    ∃ before after : Text, plain decimal = before ++ '.' :: after ∧
      Pointed decimal before after := by
  obtain ⟨digits, exponent⟩ := decimal
  cases exponent with
  | ofNat exponent =>
    by_cases short : digits.length ≤ exponent + 1
    · exact ⟨_, _, pointed_of_short whole short⟩
    · exact ⟨_, _, pointed_of_long whole (Nat.lt_of_not_le short)⟩
  | negSucc zeros => exact ⟨_, _, rfl, pointed_of_fraction whole⟩

theorem units_eq_of_plain {first second : Decimal} (left : first.Whole) (right : second.Whole)
    (same : plain first = plain second) : first.units = second.units := by
  obtain ⟨before, after, text, pointed⟩ := exists_pointed left
  obtain ⟨before', after', text', pointed'⟩ := exists_pointed right
  rw [text, text'] at same
  obtain ⟨rfl, -, rfl⟩ := (List.append_cons_inj_of_notMem (pointed.before_digits.not_mem rfl)
    (pointed.after_digits.not_mem rfl)).mp same
  have sizes := pointed.size.symm.trans pointed'.size
  exact Nat.eq_of_mul_eq_mul_right (Nat.pow_pos (by decide)) sizes

/-- Digits with a point after the first of them, unless it is the only one. -/
def mantissa (digits : Text) : Text :=
  digits.take 1 ++ (if (digits.drop 1).isEmpty then [] else '.' :: digits.drop 1)

/-- An exponent as the layout writes it. -/
def power (layout : Layout) (exponent : Int) : Text :=
  (if layout.plusSign && 0 ≤ exponent then ['+'] else []) ++ Text.ofInt exponent

theorem scientific_eq (layout : Layout) (decimal : Decimal) :
    layout.scientific decimal = mantissa decimal.digits ++ 'e' :: layout.power decimal.exponent :=
  rfl

theorem filter_mantissa {digits : Text} (all : digits.Digits) :
    (mantissa digits).filter Char.isDigit = digits := by
  cases digits with
  | nil => rfl
  | cons first rest =>
    obtain ⟨head, tail⟩ := List.forall_mem_cons.mp all
    have kept : rest.filter Char.isDigit = rest := List.filter_eq_self.mpr tail
    cases rest with
    | nil => simp [mantissa, head]
    | cons second others =>
      have point : Char.isDigit '.' = false := rfl
      simpa [mantissa, head, point] using kept

theorem mem_mantissa {digits : Text} (all : digits.Digits) {character : Char}
    (member : character ∈ mantissa digits) : character.isDigit = true ∨ character = '.' := by
  rcases List.mem_append.mp member with lead | rest
  · exact .inl (all character (List.mem_of_mem_take lead))
  · split at rest
    next => cases rest
    next =>
      rcases List.mem_cons.mp rest with point | digit
      · exact .inr point
      · exact .inl (all character (List.mem_of_mem_drop digit))

theorem mem_power {layout : Layout} {exponent : Int} {character : Char}
    (member : character ∈ layout.power exponent) :
    character.isDigit = true ∨ character = '-' ∨ layout.plusSign = true ∧ character = '+' := by
  unfold power at member
  rcases List.mem_append.mp member with sign | number
  · split at sign
    next plus =>
      have signed := (Bool.and_eq_true_iff.mp plus).1
      exact .inr (.inr ⟨signed, List.mem_singleton.mp sign⟩)
    next => cases sign
  · rcases Text.mem_ofInt number with digit | minus
    · exact .inl digit
    · exact .inr (.inl minus)

theorem power_injective {layout : Layout} {first second : Int}
    (same : layout.power first = layout.power second) : first = second := by
  have unsigned (number other : Int) : ['+'] ++ Text.ofInt number ≠ Text.ofInt other := by
    intro plus
    have member : '+' ∈ Text.ofInt other := plus ▸ List.mem_cons_self
    rcases Text.mem_ofInt member with digit | minus
    · cases digit
    · cases minus
  unfold power at same
  split at same <;> split at same
  · exact Text.ofInt_injective (List.tail_eq_of_cons_eq same)
  · exact absurd same (unsigned first second)
  · exact absurd same.symm (unsigned second first)
  · exact Text.ofInt_injective same

theorem scientific_injective {layout : Layout} {first second : Decimal} (left : first.Whole)
    (right : second.Whole) (same : layout.scientific first = layout.scientific second) :
    first = second := by
  have point : 'e' ∉ mantissa first.digits := by
    intro member
    rcases mem_mantissa left.digits member with digit | point
    · cases digit
    · cases point
  have exponent : 'e' ∉ layout.power first.exponent := by
    intro member
    rcases mem_power member with digit | minus | ⟨-, plus⟩
    · cases digit
    · cases minus
    · cases plus
  rw [scientific_eq, scientific_eq] at same
  obtain ⟨mantissas, -, powers⟩ := (List.append_cons_inj_of_notMem point exponent).mp same
  have digits : first.digits = second.digits := by
    rw [← filter_mantissa left.digits, mantissas, filter_mantissa right.digits]
  have exponents := power_injective powers
  cases first
  cases second
  exact congr (congrArg Decimal.mk digits) exponents

/-- A magnitude is written with a point among its digits, or with a mantissa and an exponent. -/
theorem magnitude_cases (layout : Layout) {decimal : Decimal} (whole : decimal.Whole) :
    (∃ before after : Text, layout.magnitude decimal = before ++ '.' :: after ∧
      Pointed decimal before after) ∨
    layout.magnitude decimal = mantissa decimal.digits ++ 'e' :: layout.power decimal.exponent := by
  unfold magnitude
  split
  · exact .inl (exists_pointed whole)
  · exact .inr (layout.scientific_eq decimal)

theorem magnitude_injective {layout : Layout} {first second : Decimal} (left : first.Whole)
    (right : second.Whole) (same : layout.magnitude first = layout.magnitude second) :
    first.units = second.units := by
  have ways (decimal other : Decimal) (whole : decimal.Whole) :
      plain decimal ≠ layout.scientific other := by
    intro mixed
    obtain ⟨before, after, text, pointed⟩ := exists_pointed whole
    have exponent : 'e' ∈ before ++ '.' :: after := by
      rw [← text, mixed, scientific_eq]
      exact List.mem_append_right _ List.mem_cons_self
    rcases List.mem_append.mp exponent with lead | rest
    · exact pointed.before_digits.not_mem rfl lead
    · exact pointed.after_digits.not_mem rfl (List.mem_of_ne_of_mem (by decide) rest)
  unfold magnitude at same
  split at same <;> split at same
  · exact units_eq_of_plain left right same
  · exact absurd same (ways first second left)
  · exact absurd same.symm (ways second first right)
  · exact congrArg Decimal.units (scientific_injective left right same)

/-- Besides digits a magnitude has a point, an exponent and the sign of this exponent at most. -/
theorem mem_magnitude {layout : Layout} {decimal : Decimal} (whole : decimal.Whole)
    {character : Char} (member : character ∈ layout.magnitude decimal) :
    character.isDigit = true ∨ character ∈ ['-', '.', 'e'] ∨
      layout.plusSign = true ∧ character = '+' := by
  rcases layout.magnitude_cases whole with ⟨before, after, text, pointed⟩ | text
  · rw [text] at member
    rcases List.mem_append.mp member with lead | rest
    · exact .inl (pointed.before_digits _ lead)
    · rcases List.mem_cons.mp rest with point | digit
      · exact .inr (.inl (by simp [point]))
      · exact .inl (pointed.after_digits _ digit)
  · rw [text] at member
    rcases List.mem_append.mp member with lead | rest
    · rcases mem_mantissa whole.digits lead with digit | point
      · exact .inl digit
      · exact .inr (.inl (by simp [point]))
    · rcases List.mem_cons.mp rest with exponent | number
      · exact .inr (.inl (by simp [exponent]))
      · rcases mem_power number with digit | minus | plus
        · exact .inl digit
        · exact .inr (.inl (by simp [minus]))
        · exact .inr (.inr plus)

/-- A magnitude is no integer: it shows a point or an exponent. -/
theorem point_or_exponent_mem_magnitude (layout : Layout) {decimal : Decimal}
    (whole : decimal.Whole) :
    '.' ∈ layout.magnitude decimal ∨ 'e' ∈ layout.magnitude decimal := by
  rcases layout.magnitude_cases whole with ⟨before, after, text, -⟩ | text
  · rw [text]
    exact .inl (List.mem_append_right _ List.mem_cons_self)
  · rw [text]
    exact .inr (List.mem_append_right _ List.mem_cons_self)

theorem exists_digit_cons_magnitude (layout : Layout) {decimal : Decimal} (whole : decimal.Whole) :
    ∃ first rest, layout.magnitude decimal = first :: rest ∧ first.isDigit = true := by
  rcases layout.magnitude_cases whole with ⟨before, after, text, pointed⟩ | text
  · obtain ⟨first, rest, rfl⟩ := List.exists_cons_of_ne_nil pointed.nonempty
    exact ⟨first, _, text, pointed.before_digits _ List.mem_cons_self⟩
  · obtain ⟨first, rest, digits⟩ := List.exists_cons_of_ne_nil whole.nonempty
    rw [mantissa, digits] at text
    exact ⟨first, _, text, whole.digits _ (digits ▸ List.mem_cons_self)⟩

end Layout

theorem finite_or_infinite_or_nan (number : Binary64) :
    number.isFinite = true ∨ number.isInfinite = true ∨ number.isNaN = true := by
  simp only [isFinite, isInfinite, isNaN, decide_eq_true_eq]
  omega

theorem write_of_nan (layout : Layout) {number : Binary64} (nan : number.isNaN = true) :
    number.write layout = layout.notNumber := by
  rw [write, if_pos nan]

theorem write_of_infinite (layout : Layout) {number : Binary64}
    (infinite : number.isInfinite = true) :
    number.write layout =
      if number.isNegative then layout.negativeInfinity else layout.infinity := by
  have ordinal : number.ordinal = infiniteOrdinal := of_decide_eq_true infinite
  have known : number.isNaN = false := decide_eq_false (by omega)
  simp [write, known, infinite]

theorem write_of_finite (layout : Layout) {number : Binary64} (finite : number.isFinite = true) :
    number.write layout =
      (if number.isNegative then ['-'] else []) ++ layout.magnitude (number.decimal layout.tie) := by
  have small : number.ordinal < infiniteOrdinal := of_decide_eq_true finite
  have known : number.isNaN = false := decide_eq_false (by omega)
  have bounded : number.isInfinite = false := decide_eq_false (by omega)
  simp [write, known, bounded]

/-- Different finite numbers are written differently, the two zeros as well. -/
theorem write_injective {layout : Layout} {left right : Binary64} (leftFinite : left.isFinite = true)
    (rightFinite : right.isFinite = true) (same : left.write layout = right.write layout) :
    left = right := by
  have minus (number other : Binary64) : '-' :: layout.magnitude (number.decimal layout.tie) ≠
      layout.magnitude (other.decimal layout.tie) := by
    intro signed
    obtain ⟨first, rest, text, digit⟩ :=
      layout.exists_digit_cons_magnitude (other.whole_decimal layout.tie)
    rw [text] at signed
    rw [← List.head_eq_of_cons_eq signed] at digit
    cases digit
  rw [write_of_finite layout leftFinite, write_of_finite layout rightFinite] at same
  have sign : left.isNegative = right.isNegative := by
    cases leftSign : left.isNegative <;> cases rightSign : right.isNegative <;>
      rw [leftSign, rightSign] at same
    · exact absurd same.symm (minus right left)
    · exact absurd same (minus left right)
  rw [sign] at same
  exact eq_of_units sign (Layout.magnitude_injective (left.whole_decimal layout.tie)
    (right.whole_decimal layout.tie) (List.append_cancel_left same))

theorem mem_write_of_finite {layout : Layout} {number : Binary64} (finite : number.isFinite = true)
    {character : Char} (member : character ∈ number.write layout) :
    character.isDigit = true ∨ character ∈ ['-', '.', 'e'] ∨
      layout.plusSign = true ∧ character = '+' := by
  rw [write_of_finite layout finite] at member
  rcases List.mem_append.mp member with sign | magnitude
  · split at sign
    · exact .inr (.inl (by simp [List.mem_singleton.mp sign]))
    · cases sign
  · exact Layout.mem_magnitude (number.whole_decimal layout.tie) magnitude

theorem point_or_exponent_mem_write (layout : Layout) {number : Binary64}
    (finite : number.isFinite = true) : '.' ∈ number.write layout ∨ 'e' ∈ number.write layout := by
  rw [write_of_finite layout finite]
  exact (layout.point_or_exponent_mem_magnitude (number.whole_decimal layout.tie)).imp
    (List.mem_append_right _) (List.mem_append_right _)

end Binary64

end PreparedCql
