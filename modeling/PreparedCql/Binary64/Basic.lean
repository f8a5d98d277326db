/-! Binary floating-point numbers of 64 and 32 bits, kept as their bits. A 64-bit number is a sign
and an ordinal, its place in the list of magnitudes from zero upwards; a finite magnitude is a whole
number of the smallest positive ones. -/

namespace PreparedCql

/-- A binary64 number by its bits: sign, eleven bits of exponent, fifty-two of fraction. -/
structure Binary64 where
  bits : UInt64
deriving DecidableEq, Repr

structure Binary32 where
  bits : UInt32
deriving DecidableEq, Repr

namespace Binary64

def isNegative (number : Binary64) : Bool := 1 <<< 63 ≤ number.bits.toNat

/-- The bits below the sign; larger magnitudes have larger ordinals. -/
def ordinal (number : Binary64) : Nat := number.bits.toNat % 1 <<< 63

/-- The ordinal of infinity; those above it are not numbers. -/
def infiniteOrdinal : Nat := 0x7FF <<< 52

def isNaN (number : Binary64) : Bool := infiniteOrdinal < number.ordinal

def isInfinite (number : Binary64) : Bool := number.ordinal = infiniteOrdinal

def isFinite (number : Binary64) : Bool := number.ordinal < infiniteOrdinal

def isZero (number : Binary64) : Bool := number.ordinal = 0

/-- Equality of numbers: what is no number differs from everything, and the two zeros agree. -/
def same (left right : Binary64) : Bool :=
  !left.isNaN && !right.isNaN && (left.bits == right.bits || left.isZero && right.isZero)

/-- The finite magnitude with this ordinal, in units of `2 ^ (-1074)`. -/
def magnitude (ordinal : Nat) : Nat :=
  let exponent := ordinal >>> 52
  let fraction := ordinal % 1 <<< 52
  if exponent = 0 then fraction else (1 <<< 52 + fraction) <<< (exponent - 1)

def ofFields (negative : Bool) (exponent fraction : Nat) : Binary64 :=
  ⟨UInt64.ofNat (negative.toNat <<< 63 + exponent <<< 52 + fraction)⟩

theorem magnitude_lt_succ (ordinal : Nat) : magnitude ordinal < magnitude (ordinal + 1) := by
  have range : 1 <<< 52 = 0x10000000000000 := rfl
  unfold magnitude
  rw [range]
  by_cases carry : ordinal % 0x10000000000000 + 1 = 0x10000000000000
  · have exponents : (ordinal + 1) >>> 52 = ordinal >>> 52 + 1 := by omega
    have fractions : (ordinal + 1) % 0x10000000000000 = 0 := by omega
    rw [exponents, fractions]
    cases ordinal >>> 52 with
    | zero =>
        simp only [if_true, Nat.zero_add, Nat.one_ne_zero, if_false, Nat.sub_self, Nat.shiftLeft_zero]
        omega
    | succ exponent =>
        simp only [Nat.succ_ne_zero, if_false, Nat.add_sub_cancel, Nat.shiftLeft_succ, Nat.add_zero]
        rw [Nat.shiftLeft_eq _ exponent, Nat.shiftLeft_eq _ exponent, ← Nat.mul_assoc]
        exact Nat.mul_lt_mul_of_pos_right (by omega) (Nat.two_pow_pos _)
  · have exponents : (ordinal + 1) >>> 52 = ordinal >>> 52 := by omega
    have fractions : (ordinal + 1) % 0x10000000000000 = ordinal % 0x10000000000000 + 1 := by omega
    rw [exponents, fractions]
    dsimp only
    split
    · omega
    · rw [Nat.shiftLeft_eq, Nat.shiftLeft_eq]
      exact Nat.mul_lt_mul_of_pos_right (by omega) (Nat.two_pow_pos _)

theorem magnitude_lt {left right : Nat} (less : left < right) : magnitude left < magnitude right := by
  induction right with
  | zero => omega
  | succ right ih =>
      rcases Nat.lt_succ_iff_lt_or_eq.mp less with below | rfl
      · exact Nat.lt_trans (ih below) (magnitude_lt_succ right)
      · exact magnitude_lt_succ left

theorem magnitude_le {left right : Nat} (most : left ≤ right) : magnitude left ≤ magnitude right := by
  rcases Nat.lt_or_eq_of_le most with less | rfl
  · exact Nat.le_of_lt (magnitude_lt less)
  · exact Nat.le_refl _

theorem bits_toNat (number : Binary64) :
    number.bits.toNat = number.isNegative.toNat <<< 63 + number.ordinal := by
  have bound := number.bits.toNat_lt
  have range : 1 <<< 63 = 0x8000000000000000 := rfl
  unfold isNegative ordinal
  rw [range]
  by_cases negative : 0x8000000000000000 ≤ number.bits.toNat
  · simp only [negative, decide_true, Bool.toNat_true]
    omega
  · simp only [negative, decide_false, Bool.toNat_false]
    omega

theorem eq_of_sign_ordinal {left right : Binary64} (sign : left.isNegative = right.isNegative)
    (ordinals : left.ordinal = right.ordinal) : left = right := by
  have bits : left.bits = right.bits := by
    apply UInt64.toNat_inj.mp
    rw [bits_toNat left, bits_toNat right, sign, ordinals]
  cases left
  cases right
  exact congrArg Binary64.mk bits

theorem same_self (number : Binary64) : number.same number = !number.isNaN := by
  cases nan : number.isNaN <;> simp [same, nan]

theorem same_comm (left right : Binary64) : left.same right = right.same left := by
  unfold same
  rw [Bool.and_comm (!left.isNaN), Bool.and_comm left.isZero, BEq.comm (a := left.bits)]

end Binary64

namespace Binary32

/-- The binary64 number of the same value; infinity stays infinity and what is no number stays none. -/
def widen (number : Binary32) : Binary64 :=
  let bits := number.bits.toNat
  let negative : Bool := 1 <<< 31 ≤ bits
  let exponent := bits >>> 23 % 1 <<< 8
  let fraction := bits % 1 <<< 23
  if exponent = 0xFF then .ofFields negative 0x7FF (fraction <<< 29)
  else if exponent = 0 then
    if fraction = 0 then .ofFields negative 0 0
    else
      let lead := fraction.log2
      .ofFields negative (lead + 874) ((fraction - 1 <<< lead) <<< (52 - lead))
  else .ofFields negative (exponent + 896) (fraction <<< 29)

end Binary32

end PreparedCql
