import PreparedCql.Command.Template
import PreparedCql.Proofs.Squeezing

/-! Rendered commands, put together from the list of their fragments and not from the template. Once
it is spaced, a rendered command is its keywords and the texts of its fragments, each spaced on its own,
with one space between those that are not empty. The keywords stand in front of the fragments that they
introduce, and the fragments in the order in which their values are bound. -/

namespace PreparedCql

namespace Words

variable {α : Type}

theorem intercalate_append (separator : List α) {left right : List (List α)} (before : left ≠ [])
    (after : right ≠ []) :
    separator.intercalate (left ++ right) =
      separator.intercalate left ++ separator ++ separator.intercalate right := by
  induction left with
  | nil => exact absurd rfl before
  | cons first rest ih =>
    cases rest with
    | nil =>
      rw [List.singleton_append, List.intercalate_cons_of_ne_nil after, List.intercalate_singleton]
    | cons second others =>
      have later := ih (List.cons_ne_nil _ _)
      rw [List.cons_append, List.cons_append, List.intercalate_cons_cons, ← List.cons_append, later,
        List.intercalate_cons_cons]
      simp only [List.append_assoc]

/-- Joining all members of groups is joining the groups, each of them joined before. -/
theorem intercalate_flatten (separator : List α) {groups : List (List (List α))}
    (nonempty : ∀ group ∈ groups, group ≠ []) :
    separator.intercalate groups.flatten =
      separator.intercalate (groups.map separator.intercalate) := by
  induction groups with
  | nil => rfl
  | cons first rest ih =>
    obtain ⟨head, tail⟩ := List.forall_mem_cons.mp nonempty
    cases rest with
    | nil => rw [List.flatten_singleton, List.map_singleton, List.intercalate_singleton]
    | cons second others =>
      have more : (second :: others).flatten ≠ [] := by
        intro none
        exact tail second List.mem_cons_self
          (List.flatten_eq_nil_iff.mp none second List.mem_cons_self)
      rw [List.flatten_cons, intercalate_append separator head more, ih tail]
      exact List.intercalate_cons_cons.symm

theorem isEmpty_spaced (separates : α → Bool) (space : α) (sequence : List α) :
    (spaced separates space sequence).isEmpty = (words separates sequence).isEmpty := by
  cases pieces : words separates sequence with
  | nil =>
    rw [spaced, pieces]
    rfl
  | cons word rest =>
    have visible : word ≠ [] := ne_nil_of_mem_words (pieces ▸ List.mem_cons_self)
    cases rest with
    | nil => simp [spaced, pieces, visible]
    | cons => simp [spaced, pieces, visible, List.intercalate_cons_cons]

/-- A row of parts, spaced, is the row of the spaced parts, those left out that have no words. -/
theorem spaced_intercalate {separates : α → Bool} {space : α} (separated : separates space = true)
    (parts : List (List α)) :
    spaced separates space ([space].intercalate parts) =
      [space].intercalate ((parts.map (spaced separates space)).filter (!·.isEmpty)) := by
  have shown : (parts.map (spaced separates space)).filter (!·.isEmpty) =
      ((parts.map (words separates)).filter (!·.isEmpty)).map [space].intercalate := by
    rw [List.filter_map, List.filter_map, List.map_map]
    congr 1
    apply List.filter_congr
    intro part _
    exact congrArg not (isEmpty_spaced separates space part)
  have nonempty : ∀ group ∈ (parts.map (words separates)).filter (!·.isEmpty), group ≠ [] := by
    intro group member
    simpa using (List.mem_filter.mp member).2
  rw [shown, ← intercalate_flatten [space] nonempty, List.flatten_filter_not_isEmpty,
    ← List.flatMap_def, spaced, words_intercalate_eq_flatMap separated]

end Words

namespace Slots

/-- Slots that are filled one after another, a later text in the place of an earlier one. -/
def ofList (entries : List (Fragment × Text)) : Slots :=
  entries.foldl (fun slots entry => slots.insert entry.1 entry.2) {}

/-- The last text that is given for the fragment, or the empty one if there is none. -/
def lastText (entries : List (Fragment × Text)) (fragment : Fragment) : Text :=
  ((entries.filter (·.1 == fragment)).getLast?.map Prod.snd).getD []

theorem get_ofList (entries : List (Fragment × Text)) (fragment : Fragment) :
    (ofList entries).get fragment = lastText entries fragment := by
  induction entries using List.reverseRecOn with
  | nil => exact get_empty fragment
  | append_singleton entries last ih =>
    have filled : ofList (entries ++ [last]) = (ofList entries).insert last.1 last.2 :=
      List.foldl_append
    rw [filled, get_insert, ih, lastText, lastText, List.filter_append]
    by_cases same : fragment = last.1
    · simp [same]
    · simp [same, Ne.symm same]

theorem lastText_filter {keep : Fragment → Bool} {fragment : Fragment} (kept : keep fragment = true)
    (entries : List (Fragment × Text)) :
    lastText (entries.filter (keep ·.1)) fragment = lastText entries fragment := by
  rw [lastText, lastText, List.filter_filter]
  congr 3
  apply List.filter_congr
  intro entry _
  by_cases same : entry.1 = fragment
  · simp [same, kept]
  · simp [same]

end Slots

namespace Command

/-- The keyword in front of a fragment. -/
def keyword? : Command → Fragment → Option String
  | insert, .table => some "INSERT INTO"
  | select, .field => some "SELECT"
  | select, .table => some "FROM"
  | update, .table => some "UPDATE"
  | update, .set => some "SET"
  | delete, .field => some "DELETE"
  | delete, .table => some "FROM"
  | _, _ => none

/-- The texts of a statement in their order: each fragment that the command uses, its keyword before it.
A deletion of all columns names none. -/
def pieces (command : Command) (text : Fragment → Text) : List Text :=
  command.fragments.flatMap fun fragment =>
    (command.keyword? fragment).toList.map String.toList ++
      [if command = .delete ∧ fragment = .field ∧ text fragment = ['*'] then [] else text fragment]

/-- The template has the fragments of the command in the order of their values. -/
theorem template_eq (command : Command) :
    command.template = command.fragments.flatMap fun fragment =>
      (command.keyword? fragment).toList.map .keyword ++ [.slot fragment] := by
  cases command <;> rfl

theorem map_partText_template (command : Command) (slots : Slots) :
    command.template.map (command.partText slots) = command.pieces slots.get := by
  rw [template_eq, List.map_flatMap, pieces]
  apply List.flatMap_congr
  intro fragment _
  rw [List.map_append, List.map_map]
  rfl

/-- A rendered command is put together from what was filled in last, in the order in which values are
bound, and what the command does not use might as well not have been filled in. -/
theorem render_follows_fragments (command : Command) (entries : List (Fragment × Text)) :
    let text := Slots.lastText entries
    (command.render (Slots.ofList entries)).collapse =
        [' '].intercalate (((command.pieces text).map Text.collapse).filter (!·.isEmpty)) ∧
      (command.pieces text =
        match command with
        | insert => ["INSERT INTO".toList, text .table, text .value, text .option]
        | select =>
            ["SELECT".toList, text .field, "FROM".toList, text .table, text .predicate,
              text .order, text .limit]
        | update =>
            ["UPDATE".toList, text .table, text .option, "SET".toList, text .set,
              text .predicate, text .condition]
        | delete =>
            ["DELETE".toList, if text .field = ['*'] then [] else text .field, "FROM".toList,
              text .table, text .option, text .predicate]) ∧
      command.fragments.Nodup ∧
      command.render (Slots.ofList (entries.filter fun entry => command.uses entry.1)) =
        command.render (Slots.ofList entries) := by
  intro text
  have given : (Slots.ofList entries).get = text := funext (Slots.get_ofList entries)
  refine ⟨?_, ?_, ?_, ?_⟩
  · rw [render, map_partText_template, given]
    exact Words.spaced_intercalate Text.isBlank_space _
  · cases command <;> simp [pieces, fragments, keyword?]
  · cases command <;> decide
  · rw [render, render, map_partText_template, map_partText_template]
    congr 1
    apply List.flatMap_congr
    intro fragment member
    have used : command.uses fragment = true := List.contains_iff_mem.mpr member
    rw [Slots.get_ofList, Slots.get_ofList, Slots.lastText_filter used]

example :
    (delete.render (Slots.ofList [(.table, "a".toList), (.field, "*".toList), (.order, "b".toList),
      (.table, " t\n\tu ".toList), (.predicate, "  ".toList)])).collapse =
    "DELETE FROM t u".toList := by decide

end Command

end PreparedCql
