import Mathlib.Data.List.Basic
import PreparedCql.Builder.Basic

/-! A statement is its command's template with the texts of the draft's fragments in it: the slots that
are filled on the way hold, for each fragment that the command uses, the text of that fragment. -/

namespace PreparedCql

namespace Slots

/-- Filled one after another, the slots of the fragments hold the texts and the others stay. -/
theorem get_foldl_insert (text : Fragment → Text) (fragments : List Fragment) (slots : Slots)
    (fragment : Fragment) :
    (fragments.foldl (fun slots filled => slots.insert filled (text filled)) slots).get fragment =
      if fragment ∈ fragments then text fragment else slots.get fragment := by
  induction fragments generalizing slots with
  | nil => rfl
  | cons first rest ih =>
    rw [List.foldl_cons, ih, get_insert]
    by_cases later : fragment ∈ rest
    · rw [if_pos later, if_pos (List.mem_cons_of_mem _ later)]
    · by_cases same : fragment = first
      · rw [if_neg later, if_pos same, if_pos (List.mem_cons.mpr (.inl same)), same]
      · have absent : fragment ∉ first :: rest := by simp [same, later]
        rw [if_neg later, if_neg same, if_neg absent]

end Slots

namespace Part

/-- What a part of the template shows of a draft. -/
def text (command : Command) (draft : Draft) : Part → Text
  | keyword words => words.toList
  | slot fragment => command.shown fragment (fragment.text draft)

end Part

namespace Draft

theorem get_slots {command : Command} {fragment : Fragment} (used : fragment ∈ command.fragments)
    (draft : Draft) : (draft.slots command).get fragment = fragment.text draft := by
  rw [slots, Slots.get_foldl_insert (fun fragment => fragment.text draft), if_pos used]

theorem render_slots (command : Command) (draft : Draft) :
    command.render (draft.slots command) =
      [' '].intercalate (command.template.map (Part.text command draft)) := by
  rw [Command.render]
  congr 1
  apply List.map_congr_left
  intro part member
  cases part with
  | keyword words => rfl
  | slot fragment =>
    have used : fragment ∈ command.fragments := by
      rw [← command.template_fragments]
      exact List.mem_filterMap.mpr ⟨_, member, rfl⟩
    rw [Command.partText, get_slots used, Part.text]

/-- The query is made up of the texts of the fragments that the command uses. -/
theorem query_congr {command : Command} {first second : Draft}
    (same : ∀ fragment ∈ command.fragments, fragment.text first = fragment.text second) :
    first.query command = second.query command := by
  have slots : first.slots command = second.slots command := by
    apply List.foldl_ext
    intro filled fragment used
    rw [same fragment used]
  rw [query, query, slots]

theorem params_congr {command : Command} {first second : Draft}
    (same : ∀ fragment ∈ command.fragments, fragment.bound first = fragment.bound second) :
    first.params command = second.params command :=
  List.flatMap_congr same

end Draft

namespace Builder

theorem build_eq_ok_iff (builder : Builder) (statement : Statement) :
    builder.build = .ok statement ↔ builder.draft.tableName?.isSome = true ∧
      statement = ⟨builder.draft.query builder.command, builder.draft.params builder.command⟩ := by
  cases name : builder.draft.tableName? <;> simp [build, name, eq_comm]

end Builder

end PreparedCql
