import PreparedCql.Marker
import PreparedCql.Proofs.Quotations
import PreparedCql.Proofs.Readability

/-! What interpolation does to a text from left to right. Whatever stands before a place of the text is
interpolated on its own, and the values that it leaves over go to the rest. A literal closes the
quotations that it opens, so no value changes what stands between quotes behind it; and where a
delimiter follows every marker, the literals can be told apart again. -/

namespace PreparedCql

namespace Text

/-- The values that the markers of the first part leave over go to the second part. -/
theorem interpolate_append (left right : Text) (values : List Value) :
    interpolate (left ++ right) values =
      interpolate left values ++ interpolate right (values.drop left.markers) := by
  induction left generalizing values with
  | nil => rfl
  | cons character rest ih =>
    rw [List.cons_append, markers_cons]
    by_cases marked : character = marker
    · cases values with
      | nil => simp only [interpolate_nil, List.drop_nil, List.cons_append]
      | cons value values =>
        rw [if_pos marked, List.drop_succ_cons, marked, interpolate_marker, interpolate_marker, ih,
          List.append_assoc]
    · rw [if_neg marked, Nat.add_zero, interpolate_cons_of_ne marked, interpolate_cons_of_ne marked,
        ih, List.cons_append]

/-! Values and quotations. -/

theorem Word.unquoted {word : Text} (unbroken : word.Word) : '\'' ∉ word := fun member =>
  unbroken _ member (by decide)

theorem balanced_quoted (content : Text) : content.quoted.Balanced := by
  have quotes : content.quoted.count '\'' = 2 * (content.count '\'' + 1) := by
    rw [quoted, List.count_append, List.count_cons_self, count_doubleQuotes, List.count_singleton_self]
    omega
  rw [Balanced, quotes]
  exact even_two_mul _

end Text

/-- A literal closes all quotations that it opens, whatever the quotes in its texts. -/
theorem Value.balanced_literal (value : Value) : value.literal.Balanced := by
  induction value using inductionOnItems with
  | list items ih =>
    have opening : Text.Balanced ['['] := Text.balanced_of_plain (by decide)
    have comma : Text.Balanced ", ".toList := Text.balanced_of_plain (by decide)
    have closing : Text.Balanced [']'] := Text.balanced_of_plain (by decide)
    rw [literal_list]
    exact (opening.append (comma.intercalate (List.forall_mem_map.mpr ih))).append closing
  | text content => exact Text.balanced_quoted content
  | _ => exact Text.balanced_of_plain (Text.Word.unquoted (And.left (word_literal nofun nofun)))

namespace Text

/-- Interpolation keeps the parity of quotes. -/
theorem count_quote_interpolate (text : Text) (values : List Value) :
    (interpolate text values).count '\'' % 2 = text.count '\'' % 2 := by
  induction text generalizing values with
  | nil => rfl
  | cons character rest ih =>
    by_cases marked : character = marker
    · cases values with
      | nil => rw [interpolate_nil]
      | cons value values =>
        have even := Nat.even_iff.mp value.balanced_literal
        have other : marker ≠ '\'' := by decide
        have later := ih values
        rw [marked, interpolate_marker, List.count_append, List.count_cons_of_ne other]
        omega
    · have later := ih values
      rw [interpolate_cons_of_ne marked, List.count_cons, List.count_cons]
      omega

/-- Whether a scanner that each quote switches is inside of a quotation after the text. -/
def insideQuotes (text : Text) : Bool :=
  text.foldl (fun inside character => if character = '\'' then !inside else inside) false

theorem insideQuotes_eq (text : Text) : text.insideQuotes = decide (text.count '\'' % 2 = 1) := by
  have from_state : ∀ inside : Bool,
      text.foldl (fun inside character => if character = '\'' then !inside else inside) inside =
        (inside ^^ decide (text.count '\'' % 2 = 1)) := by
    induction text with
    | nil => simp
    | cons character rest ih =>
      intro inside
      rw [List.foldl_cons, ih, List.count_cons]
      by_cases quote : character = '\''
      · have switched : decide ((rest.count '\'' + 1) % 2 = 1) = !decide (rest.count '\'' % 2 = 1) := by
          rw [← decide_not, decide_eq_decide]
          omega
        simp [quote, switched]
      · simp [quote]
  exact (from_state false).trans (Bool.false_xor _)

theorem interpolate_cons_of_copied {character : Char} {values : List Value}
    (copied : character ≠ marker ∨ values = []) (rest : Text) :
    interpolate (character :: rest) values = character :: interpolate rest values := by
  rcases copied with other | rfl
  · exact interpolate_cons_of_ne other rest values
  · rfl

/-- A character of the text is copied if it is no marker, or a marker that no value is left for. Before
its copy there are as many quotes as before itself, up to an even number, so a scanner that each quote
switches is inside of a quotation at both of them or at neither. -/
theorem quotation_kept_at_copies (before after : Text) (character : Char) (values : List Value)
    (copied : character ≠ marker ∨ values.length ≤ before.markers) :
    interpolate (before ++ character :: after) values =
        interpolate before values ++ character :: interpolate after (values.drop before.markers) ∧
      (interpolate before values).count '\'' % 2 = before.count '\'' % 2 ∧
      (interpolate before values).insideQuotes = before.insideQuotes := by
  have parity := count_quote_interpolate before values
  refine ⟨?_, parity, ?_⟩
  · rw [interpolate_append, interpolate_cons_of_copied]
    exact copied.imp_right List.drop_eq_nil_of_le
  · rw [insideQuotes_eq, insideQuotes_eq, parity]

/-- A marker between quotes that no value is left for, behind one that is replaced by quotes. -/
theorem quotation_kept_at_copies_quoted :
    let before : Text := "k = ? AND m = 'a".toList
    let after : Text := "b' AND n = ?".toList
    let values : List Value := [.text "'; --".toList]
    (marker ≠ marker ∨ values.length ≤ before.markers) ∧
      before.insideQuotes = true ∧
      interpolate (before ++ marker :: after) values =
        "k = '''; --' AND m = 'a?b' AND n = ?".toList ∧
      (interpolate (before ++ marker :: after) values =
          interpolate before values ++ marker :: interpolate after (values.drop before.markers) ∧
        (interpolate before values).count '\'' % 2 = before.count '\'' % 2 ∧
        (interpolate before values).insideQuotes = before.insideQuotes) := by
  intro before after values
  have copied : marker ≠ marker ∨ values.length ≤ before.markers := .inr (by decide)
  exact ⟨copied, by decide, by decide, quotation_kept_at_copies before after marker values copied⟩

/-! Values and delimiters. -/

/-- Every marker is the last character or stands before a delimiter. -/
def MarkersDelimited (text : Text) : Prop := ∀ rest : Text, marker :: rest <:+ text → rest.Delimited

theorem markersDelimited_cons (character : Char) (rest : Text) :
    MarkersDelimited (character :: rest) ↔
      (character = marker → rest.Delimited) ∧ rest.MarkersDelimited := by
  simp only [MarkersDelimited, List.suffix_cons_iff, List.cons.injEq, or_imp, forall_and, and_imp]
  constructor
  · rintro ⟨first, others⟩
    exact ⟨fun marked => first rest marked.symm rfl, others⟩
  · rintro ⟨first, others⟩
    exact ⟨fun _ marked same => same ▸ first marked.symm, others⟩

instance decidableMarkersDelimited : DecidablePred MarkersDelimited
  | [] => isTrue fun _ within => nomatch List.suffix_nil.mp within
  | character :: rest =>
      have := decidableMarkersDelimited rest
      decidable_of_iff _ (markersDelimited_cons character rest).symm

theorem Delimited.interpolate {rest : Text} (delimited : rest.Delimited) (values : List Value) :
    (rest.interpolate values).Delimited := by
  cases rest with
  | nil => exact delimited
  | cons first rest =>
    have other : first ≠ marker := by
      rintro rfl
      exact absurd delimited (by decide : marker ∉ delimiters)
    rw [interpolate_cons_of_ne other]
    exact delimited

theorem interpolate_congr {values others : List Value}
    (alike : List.Forall₂ Value.EqUpToNaN values others) (text : Text) :
    interpolate text values = interpolate text others := by
  induction text generalizing values others with
  | nil => rfl
  | cons character rest ih =>
    cases alike with
    | nil => rfl
    | cons first further =>
      by_cases marked : character = marker
      · rw [marked, interpolate_marker, interpolate_marker, first.literal_eq, ih further]
      · rw [interpolate_cons_of_ne marked, interpolate_cons_of_ne marked, ih (.cons first further)]

/-- With a delimiter behind every marker, the text that is shown tells the value of each marker. -/
theorem forall₂_of_interpolate {text : Text} (delimited : text.MarkersDelimited)
    {values others : List Value} (count : values.length = text.markers)
    (count' : others.length = text.markers)
    (same : interpolate text values = interpolate text others) :
    List.Forall₂ Value.EqUpToNaN values others := by
  induction text generalizing values others with
  | nil =>
    rw [List.eq_nil_of_length_eq_zero count, List.eq_nil_of_length_eq_zero count']
    exact .nil
  | cons character rest ih =>
    obtain ⟨first, later⟩ := (markersDelimited_cons character rest).mp delimited
    rw [markers_cons] at count count'
    by_cases marked : character = marker
    · rw [if_pos marked] at count count'
      obtain ⟨value, values, rfl⟩ := List.exists_cons_of_length_eq_add_one count
      obtain ⟨other, others, rfl⟩ := List.exists_cons_of_length_eq_add_one count'
      rw [marked, interpolate_marker, interpolate_marker] at same
      obtain ⟨alike, ends⟩ := value.reads_literal ((first marked).interpolate values)
        ((first marked).interpolate others) same
      exact .cons alike (ih later (Nat.succ.inj count) (Nat.succ.inj count') ends)
    · rw [if_neg marked] at count count'
      rw [interpolate_cons_of_ne marked, interpolate_cons_of_ne marked] at same
      exact ih later count count' (List.tail_eq_of_cons_eq same)

/-- If a delimiter follows every marker and there is a value for each of them, then the text that is
shown tells the values, but for the payloads of what is no number. -/
theorem interpolate_eq_interpolate_iff {text : Text} (delimited : text.MarkersDelimited)
    {values others : List Value} (count : values.length = text.markers)
    (count' : others.length = text.markers) :
    interpolate text values = interpolate text others ↔
      List.Forall₂ Value.EqUpToNaN values others :=
  ⟨forall₂_of_interpolate delimited count count', fun alike => interpolate_congr alike text⟩

/-- Two payloads, behind a quote, a marker and delimiters in the other values. -/
theorem interpolate_eq_interpolate_iff_payloads :
    let text : Text := "a = ? AND b IN (?, ?)".toList
    let values : List Value :=
      [.text "it's ?, )".toList, .list [.int 1, .blob []], .float ⟨0x7FF8000000000000⟩]
    let others : List Value :=
      [.text "it's ?, )".toList, .list [.int 1, .blob []], .float ⟨0xFFF8000000000001⟩]
    let shown : Text := "a = 'it''s ?, )' AND b IN ([1, 0x], NaN)".toList
    (text.MarkersDelimited ∧ values.length = text.markers ∧ others.length = text.markers) ∧
      interpolate text values = shown ∧ interpolate text others = shown ∧
      List.Forall₂ Value.EqUpToNaN values others := by
  intro text values others shown
  have delimited : text.MarkersDelimited := by decide
  have first : interpolate text values = shown := by decide
  have second : interpolate text others = shown := by decide
  exact ⟨⟨delimited, rfl, rfl⟩, first, second,
    (interpolate_eq_interpolate_iff delimited rfl rfl).mp (first.trans second.symm)⟩

/-- Without delimiters the literals of different values may run together into one text. -/
example : interpolate "??".toList [.int 1, .int 12] = interpolate "??".toList [.int 11, .int 2] := by
  decide

end Text

end PreparedCql
