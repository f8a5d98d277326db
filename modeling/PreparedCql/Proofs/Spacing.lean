import Mathlib
import PreparedCql.Text.Words

/-! What joining and spacing keep of a sequence. Both only put separators in or take them out, so
whatever is read off a sequence element by element, blind to its separators, stays the same. -/

namespace PreparedCql.Words

variable {α β : Type}

theorem flatMap_intercalate (f : α → List β) (separator : List α) (parts : List (List α)) :
    (separator.intercalate parts).flatMap f =
      (separator.flatMap f).intercalate (parts.map (List.flatMap f)) := by
  induction parts with
  | nil => rfl
  | cons first rest ih =>
    cases rest with
    | nil => simp only [List.intercalate_singleton, List.map_cons, List.map_nil]
    | cons second others =>
      simp only [List.intercalate_cons_cons, List.flatMap_append, ih, List.map_cons]

theorem map_intercalate (f : α → β) (separator : List α) (parts : List (List α)) :
    (separator.intercalate parts).map f = (separator.map f).intercalate (parts.map (List.map f)) := by
  have each : List.map f = List.flatMap fun element => [f element] :=
    funext fun sequence => List.map_eq_flatMap
  rw [each]
  exact flatMap_intercalate _ separator parts

theorem intercalate_nil_left (parts : List (List α)) : [].intercalate parts = parts.flatten := by
  induction parts with
  | nil => rfl
  | cons first rest ih =>
    cases rest with
    | nil => rw [List.intercalate_singleton, List.flatten_singleton]
    | cons second others =>
      rw [List.intercalate_cons_cons, List.append_nil, ih]
      rfl

/-- Reading that skips what stands between the parts reads one part after another. -/
theorem filterMap_intercalate {f : α → Option β} {separator : List α}
    (blind : separator.filterMap f = []) (parts : List (List α)) :
    (separator.intercalate parts).filterMap f = parts.flatMap (List.filterMap f) := by
  have each : List.filterMap f = List.flatMap fun element => (f element).toList :=
    funext fun sequence => List.filterMap_eq_flatMap_toList f sequence
  rw [each] at blind ⊢
  rw [flatMap_intercalate, blind, intercalate_nil_left, List.flatMap_def]

theorem countP_intercalate {p : α → Bool} {separator : List α} (absent : separator.countP p = 0)
    (parts : List (List α)) :
    (separator.intercalate parts).countP p = (parts.map (List.countP p)).sum := by
  induction parts with
  | nil => rfl
  | cons first rest ih =>
    cases rest with
    | nil => rw [List.intercalate_singleton, List.map_singleton, List.sum_singleton]
    | cons second others =>
      rw [List.intercalate_cons_cons, List.countP_append, List.countP_append, absent, ih,
        Nat.add_zero]
      rfl

theorem flatten_cut (separates : α → Bool) (sequence : List α) :
    (cut separates sequence).flatten = sequence.filter (!separates ·) := by
  induction sequence with
  | nil => rfl
  | cons first rest ih =>
    by_cases separated : separates first = true
    · simp [cut, separated, ih]
    · have joined : separates first = false := eq_false_of_ne_true separated
      cases pieces : cut separates rest with
      | nil => exact absurd pieces (cut_ne_nil separates rest)
      | cons head tail =>
        rw [pieces] at ih
        simp [cut, joined, pieces, ← ih]

/-- The words hold everything but the separators, in its order. -/
theorem flatten_words (separates : α → Bool) (sequence : List α) :
    (words separates sequence).flatten = sequence.filter (!separates ·) := by
  rw [words, List.flatten_filter_not_isEmpty, flatten_cut]

/-- Reading that skips separators reads the same of a sequence and of its spaced form. -/
theorem filterMap_spaced {separates : α → Bool} {space : α} {f : α → Option β}
    (separated : separates space = true) (blind : ∀ element, separates element = true → f element = none)
    (sequence : List α) : (spaced separates space sequence).filterMap f = sequence.filterMap f := by
  have skipped : [space].filterMap f = [] := by simp [blind space separated]
  calc
    (spaced separates space sequence).filterMap f
    _ = (words separates sequence).flatMap (List.filterMap f) := filterMap_intercalate skipped _
    _ = (words separates sequence).flatten.filterMap f := by
      rw [List.filterMap_flatten, List.flatMap_def]
    _ = (sequence.filter (!separates ·)).filterMap f := by rw [flatten_words]
    _ = sequence.filterMap f := by
      rw [List.filterMap_filter]
      congr 1
      funext element
      cases separates_element : separates element with
      | true => simp [blind element separates_element]
      | false => simp

theorem countP_spaced {separates p : α → Bool} {space : α} (separated : separates space = true)
    (blind : ∀ element, separates element = true → p element = false) (sequence : List α) :
    (spaced separates space sequence).countP p = sequence.countP p := by
  have counted : ∀ list : List α, list.countP p = (list.filterMap (Option.guard p)).length := by
    intro list
    simp [List.countP_eq_length_filter]
  rw [counted, counted, filterMap_spaced separated]
  intro element separates_element
  simp [blind element separates_element]

theorem spaced_map (separates : β → Bool) (f : α → β) (space : α) (sequence : List α) :
    spaced separates (f space) (sequence.map f) =
      (spaced (separates ∘ f) space sequence).map f := by
  rw [spaced, words_map, spaced, map_intercalate, List.map_singleton]

end PreparedCql.Words
