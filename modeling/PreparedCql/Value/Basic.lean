import PreparedCql.Text.Basic
import PreparedCql.Binary64.Basic

/-! The values that a statement binds to its markers, and their equality. -/

namespace PreparedCql

/-- A bound value. Integers of every width are kept in 64 bits and floats as binary64. -/
inductive Value where
  | null
  | bool (flag : Bool)
  | int (number : Int64)
  | float (number : Binary64)
  | text (content : Text)
  | blob (bytes : List UInt8)
  | list (items : List Value)
deriving Repr

namespace Value

/-- Induction on a value, with the hypothesis for every item of a list. -/
@[elab_as_elim]
theorem inductionOnItems {motive : Value → Prop} (null : motive .null)
    (bool : ∀ flag, motive (.bool flag)) (int : ∀ number, motive (.int number))
    (float : ∀ number, motive (.float number)) (text : ∀ content, motive (.text content))
    (blob : ∀ bytes, motive (.blob bytes))
    (list : ∀ items, (∀ item ∈ items, motive item) → motive (.list items)) (value : Value) :
    motive value :=
  @Value.rec motive (fun items => ∀ item ∈ items, motive item) null bool int float text blob list
    (List.forall_mem_nil _) (fun _ _ head tail => List.forall_mem_cons.mpr ⟨head, tail⟩) value

mutual

/-- Equality of values. Values of different kinds differ, and floats are compared as numbers, so a
value with something in it that is no number differs from itself. -/
def same : Value → Value → Bool
  | .null, .null => true
  | .bool left, .bool right => left == right
  | .int left, .int right => left == right
  | .float left, .float right => left.same right
  | .text left, .text right => left == right
  | .blob left, .blob right => left == right
  | .list left, .list right => sameItems left right
  | _, _ => false

def sameItems : List Value → List Value → Bool
  | [], [] => true
  | left :: lefts, right :: rights => left.same right && sameItems lefts rights
  | _, _ => false

end

instance : BEq Value := ⟨same⟩

theorem beq_eq_same (left right : Value) : (left == right) = left.same right := rfl

theorem sameItems_eq_beq (lefts rights : List Value) :
    sameItems lefts rights = (lefts == rights) := by
  induction lefts generalizing rights with
  | nil => cases rights <;> rfl
  | cons left lefts ih =>
      cases rights with
      | nil => rfl
      | cons right rights => rw [sameItems, ih, List.cons_beq_cons, beq_eq_same]

end Value

end PreparedCql
