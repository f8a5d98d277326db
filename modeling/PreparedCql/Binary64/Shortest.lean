import PreparedCql.Text.Basic
import PreparedCql.Binary64.Basic

/-! The decimal with the fewest digits that reads back as a given binary64 number. The numbers that
round to it fill a span around it; the coarsest decimal grid with a point in the span gives the
digits, and of two points the nearer one is taken. All of it is exact, in units of `10 ^ (-1075)`.
The result always lies in the span of its own number and in no other. -/

namespace PreparedCql.Binary64

/-- Where a value halfway between two grid points goes. -/
inductive Tie where
  | up
  | even
deriving DecidableEq, Repr

/-- A value and the ends of the interval that rounds to it; a closed span has its ends as well. -/
structure Span where
  low : Nat
  value : Nat
  high : Nat
  closed : Bool
deriving DecidableEq, Repr

namespace Span

def holds (span : Span) (point : Nat) : Bool :=
  if span.closed then span.low ≤ point && point ≤ span.high
  else span.low < point && point < span.high

/-- Whether the multiple of `step` above the value is taken and not the one below. -/
def roundsUp (span : Span) (tie : Tie) (step : Nat) : Bool :=
  let quotient := span.value / step
  match compare (2 * span.value) ((2 * quotient + 1) * step), tie with
  | .lt, _ => false
  | .gt, _ => true
  | .eq, .up => true
  | .eq, .even => quotient % 2 = 1

/-- Of the two multiples of `step` around the value the nearer one that lies in the span. -/
def nearest? (span : Span) (tie : Tie) (step : Nat) : Option Nat :=
  let below := span.value / step * step
  let above := below + step
  match span.holds below, span.holds above with
  | true, true => some (if span.roundsUp tie step then above else below)
  | true, false => some below
  | false, true => some above
  | false, false => none

/-- The point on the coarsest grid `10 ^ k` with `k` at most `places`; on the finest grid it is the
value itself. -/
def shortest (span : Span) (tie : Tie) : Nat → Nat
  | 0 => span.value
  | places + 1 =>
      match span.nearest? tie (Nat.pow 10 (places + 1)) with
      | some point => point
      | none => span.shortest tie places

theorem holds_of_nearest? {span : Span} {tie : Tie} {step point : Nat}
    (found : span.nearest? tie step = some point) : span.holds point = true := by
  unfold nearest? at found
  revert found
  dsimp only
  cases below : span.holds (span.value / step * step) <;>
    cases above : span.holds (span.value / step * step + step)
  · simp
  · simp only [Option.some.injEq]
    rintro rfl
    exact above
  · simp only [Option.some.injEq]
    rintro rfl
    exact below
  · simp only [Option.some.injEq]
    rintro rfl
    split
    · exact above
    · exact below

theorem holds_shortest {span : Span} (tie : Tie) (inside : span.holds span.value = true)
    (places : Nat) : span.holds (span.shortest tie places) = true := by
  induction places with
  | zero => exact inside
  | succ places ih =>
      unfold shortest
      split
      next point found => exact holds_of_nearest? found
      next => exact ih

end Span

def halfStep : Nat := Nat.pow 5 1075

theorem halfStep_pos : 0 < halfStep := by
  unfold halfStep
  generalize 1075 = exponent
  exact Nat.pow_pos (by decide)

/-- The span of the magnitude with this ordinal: it ends halfway to the neighbouring magnitudes, and
an end belongs to the neighbour with the even ordinal. -/
def spanAt (ordinal : Nat) : Span where
  low := (magnitude (ordinal - 1) + magnitude ordinal) * halfStep
  value := 2 * magnitude ordinal * halfStep
  high := (magnitude ordinal + magnitude (ordinal + 1)) * halfStep
  closed := ordinal % 2 = 0

theorem spanAt_holds_value (ordinal : Nat) :
    (spanAt ordinal).holds (spanAt ordinal).value = true := by
  have above := magnitude_lt_succ ordinal
  have high : 2 * magnitude ordinal * halfStep <
      (magnitude ordinal + magnitude (ordinal + 1)) * halfStep :=
    Nat.mul_lt_mul_of_pos_right (by omega) halfStep_pos
  cases ordinal with
  | zero => simp [Span.holds, spanAt, magnitude]
  | succ previous =>
      have below := magnitude_lt_succ previous
      have low : (magnitude previous + magnitude (previous + 1)) * halfStep <
          2 * magnitude (previous + 1) * halfStep :=
        Nat.mul_lt_mul_of_pos_right (by omega) halfStep_pos
      simp only [Span.holds, spanAt, Nat.add_sub_cancel]
      split
      · simp only [Bool.and_eq_true, decide_eq_true_eq]
        exact ⟨Nat.le_of_lt low, Nat.le_of_lt high⟩
      · simp only [Bool.and_eq_true, decide_eq_true_eq]
        exact ⟨low, high⟩

theorem Span.bounds_of_holds {span : Span} {point : Nat} (inside : span.holds point = true) :
    span.low ≤ point ∧ point ≤ span.high ∧
      (span.closed = false → span.low < point ∧ point < span.high) := by
  unfold Span.holds at inside
  split at inside
  next closed =>
    simp only [Bool.and_eq_true, decide_eq_true_eq] at inside
    exact ⟨inside.1, inside.2, by simp [closed]⟩
  next =>
    simp only [Bool.and_eq_true, decide_eq_true_eq] at inside
    exact ⟨Nat.le_of_lt inside.1, Nat.le_of_lt inside.2, fun _ => inside⟩

private theorem not_lt_of_common {left right point : Nat}
    (first : (spanAt left).holds point = true) (second : (spanAt right).holds point = true) :
    ¬left < right := by
  intro less
  obtain ⟨_, high, leftOpen⟩ := Span.bounds_of_holds first
  obtain ⟨low, _, rightOpen⟩ := Span.bounds_of_holds second
  have previous := magnitude_le (show left ≤ right - 1 by omega)
  have next := magnitude_le (show left + 1 ≤ right by omega)
  have ends : (spanAt left).high ≤ (spanAt right).low :=
    Nat.mul_le_mul_right _ (by omega)
  have adjacent : right = left + 1 := by
    have equal : (magnitude left + magnitude (left + 1)) * halfStep =
        (magnitude (right - 1) + magnitude right) * halfStep :=
      Nat.le_antisymm ends (Nat.le_trans low high)
    have sums := Nat.eq_of_mul_eq_mul_right halfStep_pos equal
    by_cases apart : left + 1 < right
    · have strict := magnitude_lt apart
      omega
    · omega
  have parity : left % 2 = 0 → right % 2 ≠ 0 := by omega
  by_cases even : left % 2 = 0
  · have strict := rightOpen (by simpa [spanAt] using parity even)
    omega
  · have strict := leftOpen (by simpa [spanAt] using even)
    omega

theorem eq_of_holds {left right point : Nat} (first : (spanAt left).holds point = true)
    (second : (spanAt right).holds point = true) : left = right := by
  have notLess := not_lt_of_common first second
  have notGreater := not_lt_of_common second first
  omega

/-- The shortest decimal magnitude that reads back, in units of `10 ^ (-1075)`. -/
def shortest (number : Binary64) (tie : Tie) : Nat :=
  let span := spanAt number.ordinal
  span.shortest tie ((Text.ofNat span.value).length - 1)

theorem holds_shortest (number : Binary64) (tie : Tie) :
    (spanAt number.ordinal).holds (number.shortest tie) = true :=
  Span.holds_shortest tie (spanAt_holds_value number.ordinal) _

end PreparedCql.Binary64
