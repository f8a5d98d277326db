import PreparedCql.Fragment.Basic

/-! The texts of fragments, ready to be put into a template. -/

namespace PreparedCql

/-- A table with a text for each fragment that has been filled. -/
structure Slots where
  texts : Vector (Option Text) Fragment.count := Vector.replicate Fragment.count none

namespace Slots

def insert (slots : Slots) (fragment : Fragment) (text : Text) : Slots where
  texts := slots.texts.set fragment.index (some text)

def get (slots : Slots) (fragment : Fragment) : Text := slots.texts[fragment.index].getD []

instance : Inspect Slots where
  inspect slots := Inspect.record "RenderedFragments" [("texts", inspect slots.texts.toList)]

theorem get_empty (fragment : Fragment) : get {} fragment = [] := by
  rw [get, Fin.getElem_fin, Vector.getElem_replicate]
  rfl

theorem get_insert (slots : Slots) (fragment other : Fragment) (text : Text) :
    (slots.insert fragment text).get other = if other = fragment then text else slots.get other := by
  by_cases same : other = fragment
  · rw [if_pos same, same, get, insert, Fin.getElem_fin, Vector.getElem_set_self]
    rfl
  · have apart : fragment.index.val ≠ other.index.val := fun places =>
      same (Fragment.index_injective (Fin.ext places)).symm
    rw [if_neg same, get, insert, Fin.getElem_fin, Vector.getElem_set_ne _ _ apart]
    rfl

end Slots

end PreparedCql
