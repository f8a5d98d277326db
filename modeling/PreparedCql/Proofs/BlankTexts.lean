import PreparedCql.Proofs.Interleaving
import PreparedCql.Proofs.Rendering
import PreparedCql.Proofs.Squeezing

/-! Texts that are blank. A name or a clause counts as not given only if it is empty. A blank one is
given, but it has no words, so the statement shows nothing where it stands. -/

namespace PreparedCql

namespace Text

/-- There is nothing to see in the text. -/
def Blank (text : Text) : Prop := ∀ character ∈ text, isBlank character = true

instance : DecidablePred Blank := fun text => List.decidableBAll (isBlank · = true) text

theorem words_append_of_blank {blanks : Text} (blank : blanks.Blank) (text : Text) :
    words (text ++ blanks) = words text := by
  induction blanks generalizing text with
  | nil => rw [List.append_nil]
  | cons first rest ih =>
    have later := ih (fun character member => blank character (List.mem_cons_of_mem _ member)) []
    have empty : words rest = [] := later
    rw [words, Words.words_append_separator (blank first List.mem_cons_self)]
    exact (congrArg (words text ++ ·) empty).trans (List.append_nil _)

theorem words_append_blank_left {blanks : Text} (blank : blanks.Blank) (text : Text) :
    words (blanks ++ text) = words text := by
  induction blanks with
  | nil => rfl
  | cons first rest ih =>
    rw [words, List.cons_append, Words.words_cons_separator (blank first List.mem_cons_self)]
    exact ih fun character member => blank character (List.mem_cons_of_mem _ member)

theorem words_eq_nil_iff (text : Text) : words text = [] ↔ text.Blank := by
  constructor
  · intro none character member
    have visible : text.filter (!isBlank ·) = [] := by
      rw [← Words.flatten_words, ← words.eq_1, none, List.flatten_nil]
    simpa using List.filter_eq_nil_iff.mp visible character member
  · exact fun blank => words_append_of_blank blank []

theorem collapse_eq_collapse_iff (first second : Text) :
    collapse first = collapse second ↔ words first = words second := by
  constructor
  · intro same
    rw [← words_collapse first, same, words_collapse]
  · exact congrArg [' '].intercalate

end Text

open Text

namespace Draft

/-- The query with another text in the slot of a fragment. -/
def queryShowing (draft : Draft) (command : Command) (fragment : Fragment) (text : Text) : Text :=
  (command.render ((draft.slots command).insert fragment text)).collapse

theorem query_eq_queryShowing_iff_words (draft : Draft) (command : Command) (fragment : Fragment)
    (text : Text) :
    draft.query command = draft.queryShowing command fragment text ↔
      (command.template.flatMap fun part =>
        words (command.partText (draft.slots command) part)) =
      command.template.flatMap fun part =>
        words (command.partText ((draft.slots command).insert fragment text) part) := by
  rw [query, queryShowing, collapse_eq_collapse_iff, Command.render, Command.render, words, words,
    Words.words_intercalate_eq_flatMap isBlank_space,
    Words.words_intercalate_eq_flatMap isBlank_space,
    List.flatMap_map, List.flatMap_map]
  rfl

theorem partText_insert_of_ne {command : Command} {fragment : Fragment} {part : Part}
    (other : part ≠ .slot fragment) (slots : Slots) (text : Text) :
    command.partText (slots.insert fragment text) part = command.partText slots part := by
  cases part with
  | keyword words => rfl
  | slot shown =>
    have apart : shown ≠ fragment := fun same => other (congrArg Part.slot same)
    rw [Command.partText, Command.partText, Slots.get_insert, if_neg apart]

theorem partText_insert_self {command : Command} {fragment : Fragment} (plain : fragment ≠ .field)
    (slots : Slots) (text : Text) :
    command.partText (slots.insert fragment text) (.slot fragment) = text := by
  rw [Command.partText, Slots.get_insert, if_pos rfl]
  exact if_neg fun whole => plain whole.2.1

theorem partText_slots {command : Command} {fragment : Fragment} (plain : fragment ≠ .field)
    (used : fragment ∈ command.fragments) (draft : Draft) :
    command.partText (draft.slots command) (.slot fragment) = fragment.text draft := by
  rw [Command.partText, get_slots used]
  exact if_neg fun whole => plain whole.2.1

/-- A statement shows the words of a fragment and nothing else of it. Only the columns are looked at
before they are shown. -/
theorem query_eq_queryShowing_iff {command : Command} {fragment : Fragment}
    (plain : fragment ≠ .field) (used : fragment ∈ command.fragments) (draft : Draft) (text : Text) :
    draft.query command = draft.queryShowing command fragment text ↔
      words (fragment.text draft) = words text := by
  have member : .slot fragment ∈ command.template := by
    rw [← command.template_fragments] at used
    obtain ⟨part, inside, fills⟩ := List.mem_filterMap.mp used
    cases part with
    | keyword => cases fills
    | slot =>
      cases fills
      exact inside
  have once : command.template.Nodup := by cases command <;> decide
  obtain ⟨before, after, split⟩ := List.append_of_mem member
  rw [split, List.nodup_append, List.nodup_cons] at once
  have same : ∀ part, part ∈ before ∨ part ∈ after →
      words (command.partText (draft.slots command) part) =
        words (command.partText ((draft.slots command).insert fragment text) part) := by
    intro part inside
    have other : part ≠ .slot fragment := by
      rintro rfl
      rcases inside with first | last
      · exact once.2.2 _ first _ List.mem_cons_self rfl
      · exact once.2.1.1 last
    rw [partText_insert_of_ne other]
  rw [query_eq_queryShowing_iff_words, split, List.flatMap_append, List.flatMap_append,
    List.flatMap_cons, List.flatMap_cons,
    List.flatMap_congr fun part inside => same part (.inl inside),
    List.flatMap_congr fun part inside => same part (.inr inside), List.append_right_inj,
    List.append_left_inj, partText_insert_self plain, partText_slots plain used]

theorem query_eq_queryShowing {command : Command} {fragment : Fragment} (plain : fragment ≠ .field)
    {draft : Draft} {text : Text} (shown : words (fragment.text draft) = words text) :
    draft.query command = draft.queryShowing command fragment text := by
  by_cases used : fragment ∈ command.fragments
  · exact (query_eq_queryShowing_iff plain used draft text).mpr shown
  · rw [query_eq_queryShowing_iff_words]
    apply List.flatMap_congr
    intro part member
    have other : part ≠ .slot fragment := by
      rintro rfl
      apply used
      rw [← command.template_fragments]
      exact List.mem_filterMap.mpr ⟨_, member, rfl⟩
    rw [partText_insert_of_ne other]

/-- A blank table shows nothing but the keyspace that it is qualified with. -/
theorem words_table_of_blank {draft : Draft} {name : Text} (given : draft.table = some name)
    (blank : name.Blank) :
    words (Fragment.text draft .table) =
      words (draft.keyspaceName?.elim [] fun keyspace => keyspace ++ ['.']) := by
  rw [Fragment.text, given, Option.getD_some]
  cases draft.keyspaceName? with
  | none => exact (words_eq_nil_iff name).mpr blank
  | some keyspace =>
    have apart : keyspace ++ '.' :: name = keyspace ++ ['.'] ++ name := by simp
    change words (keyspace ++ '.' :: name) = words (keyspace ++ ['.'])
    rw [apart, words_append_of_blank blank]

theorem words_table_of_blank_keyspace {draft : Draft} {keyspace name : Text}
    (given : draft.keyspaceName? = some keyspace) (blank : keyspace.Blank)
    (named : draft.table = some name) :
    words (Fragment.text draft .table) = words ('.' :: name) := by
  rw [Fragment.text, given, named, Option.getD_some]
  exact words_append_blank_left blank _

theorem words_table_eq_nil_iff (draft : Draft) :
    words (Fragment.text draft .table) = [] ↔
      draft.keyspaceName? = none ∧ (draft.table.getD []).Blank := by
  rw [words_eq_nil_iff, Fragment.text]
  cases draft.keyspaceName? with
  | none => simp
  | some keyspace =>
    have shown : ¬Blank (keyspace ++ '.' :: draft.table.getD []) := by
      intro blank
      cases blank '.' (List.mem_append_right _ List.mem_cons_self)
    simpa using shown

theorem words_order_of_clause {draft : Draft} {clause : Text}
    (given : draft.orderClause? = some clause) :
    words (Fragment.text draft .order) = words "ORDER BY".toList ++ words clause := by
  rw [Fragment.text, given]
  exact Words.words_append_separator isBlank_space "ORDER BY".toList clause

theorem words_order_eq_iff (draft : Draft) :
    words (Fragment.text draft .order) = words "ORDER BY".toList ↔
      ∃ clause, draft.orderClause? = some clause ∧ clause.Blank := by
  cases given : draft.orderClause? with
  | none =>
    rw [Fragment.text, given]
    have differ : words [] ≠ words "ORDER BY".toList := by decide
    simpa using differ
  | some clause => simp [words_order_of_clause given, words_eq_nil_iff]

end Draft

namespace Builder

theorem build_congr {first second : Builder} (commands : first.command = second.command)
    (named : first.draft.tableName? = second.draft.tableName?)
    (texts : ∀ fragment : Fragment, fragment.text first.draft = fragment.text second.draft)
    (bound : ∀ fragment : Fragment, fragment.bound first.draft = fragment.bound second.draft) :
    first.build = second.build := by
  rw [build, build, named, commands, Draft.query_congr fun fragment _ => texts fragment,
    Draft.params_congr fun fragment _ => bound fragment]

theorem build_of_empty_keyspace {builder : Builder} (given : builder.draft.keyspace = some []) :
    builder.build = { builder with draft := { builder.draft with keyspace := none } }.build := by
  apply build_congr
  · rfl
  · rfl
  · intro fragment
    cases fragment with
    | table => simp only [Fragment.text, Draft.keyspaceName?, given]; rfl
    | _ => rfl
  · intro fragment
    cases fragment <;> rfl

theorem build_of_empty_order {builder : Builder} (given : builder.draft.order = some []) :
    builder.build = { builder with draft := { builder.draft with order := none } }.build := by
  apply build_congr
  · rfl
  · rfl
  · intro fragment
    cases fragment with
    | order => simp only [Fragment.text, Draft.orderClause?, given]; rfl
    | _ => rfl
  · intro fragment
    cases fragment <;> rfl

theorem build_of_named {builder : Builder} {name : Text}
    (named : builder.draft.tableName? = some name) {fragment : Fragment} (plain : fragment ≠ .field)
    {text : Text} (shown : words (fragment.text builder.draft) = words text) :
    builder.build = .ok ⟨builder.draft.queryShowing builder.command fragment text,
      builder.draft.params builder.command⟩ := by
  rw [build, named, Draft.query_eq_queryShowing plain shown]

/-- The empty text stands for none: for no table, so that nothing can be built, for no keyspace and
for no order. A text that is blank but not empty stands for itself and is built into the statement,
which then shows nothing in its place: no table behind its keyspace, no keyspace before the point, or
no clause behind `ORDER BY`. These are the only statements with an empty place for the table or with
nothing to order by. -/
theorem build_of_blank_texts (builder : Builder) :
    (∀ name, builder.draft.table = some name → name.Blank →
      (name = [] → builder.build = .error .missingTable) ∧
      (name ≠ [] → builder.build = .ok ⟨builder.draft.queryShowing builder.command .table
        (builder.draft.keyspaceName?.elim [] fun keyspace => keyspace ++ ['.']),
        builder.draft.params builder.command⟩)) ∧
    (∀ keyspace, builder.draft.keyspace = some keyspace → keyspace.Blank →
      (keyspace = [] →
        builder.build = { builder with draft := { builder.draft with keyspace := none } }.build) ∧
      (keyspace ≠ [] → ∀ name, builder.draft.tableName? = some name →
        builder.build = .ok ⟨builder.draft.queryShowing builder.command .table ('.' :: name),
          builder.draft.params builder.command⟩)) ∧
    (∀ clause, builder.draft.order = some clause → clause.Blank →
      (clause = [] →
        builder.build = { builder with draft := { builder.draft with order := none } }.build) ∧
      (clause ≠ [] → ∀ name, builder.draft.tableName? = some name →
        builder.build = .ok ⟨builder.draft.queryShowing builder.command .order "ORDER BY".toList,
          builder.draft.params builder.command⟩)) ∧
    ∀ statement, builder.build = .ok statement →
      (statement.query = builder.draft.queryShowing builder.command .table [] ↔
        builder.draft.keyspaceName? = none ∧ ∃ name, builder.draft.table = some name ∧ name.Blank) ∧
      (builder.command = .select →
        (statement.query = builder.draft.queryShowing builder.command .order "ORDER BY".toList ↔
          ∃ clause, builder.draft.order = some clause ∧ clause ≠ [] ∧ clause.Blank)) := by
  refine ⟨?_, ?_, ?_, ?_⟩
  · intro name given blank
    constructor
    · rintro rfl
      exact (build_eq_missingTable_iff builder).mpr (by simp [Draft.tableName?, given])
    · intro nonempty
      have named : builder.draft.tableName? = some name := by
        simp [Draft.tableName?, given, nonempty]
      exact build_of_named named (by decide) (Draft.words_table_of_blank given blank)
  · intro keyspace given blank
    constructor
    · rintro rfl
      exact build_of_empty_keyspace given
    · intro nonempty name named
      have qualified : builder.draft.keyspaceName? = some keyspace := by
        simp [Draft.keyspaceName?, given, nonempty]
      have table : builder.draft.table = some name := (Option.filter_eq_some_iff.mp named).1
      exact build_of_named named (by decide)
        (Draft.words_table_of_blank_keyspace qualified blank table)
  · intro clause given blank
    constructor
    · rintro rfl
      exact build_of_empty_order given
    · intro nonempty name named
      have ordered : builder.draft.orderClause? = some clause := by
        simp [Draft.orderClause?, given, nonempty]
      have shown := (Draft.words_order_eq_iff builder.draft).mpr ⟨clause, ordered, blank⟩
      exact build_of_named named (by decide) shown
  · intro statement built
    obtain ⟨named, rfl⟩ := (build_eq_ok_iff builder statement).mp built
    obtain ⟨name, table⟩ := Option.isSome_iff_exists.mp named
    have given : builder.draft.table = some name := (Option.filter_eq_some_iff.mp table).1
    constructor
    · have used : .table ∈ builder.command.fragments :=
        List.contains_iff_mem.mp builder.command.uses_table
      rw [Draft.query_eq_queryShowing_iff (by decide) used]
      refine (Draft.words_table_eq_nil_iff builder.draft).trans ?_
      simp [given]
    · intro selection
      have used : .order ∈ builder.command.fragments := by
        rw [selection]
        decide
      rw [Draft.query_eq_queryShowing_iff (by decide) used, Draft.words_order_eq_iff]
      simp [Draft.orderClause?, Option.filter_eq_some_iff, and_assoc]

/-- A selection from a table of two blanks in a keyspace, in an order of one blank. -/
theorem build_of_blank_texts_select :
    let builder :=
      (new .select).after [.order "\t".toList, .qualifiedTable "ks".toList " \n".toList, .limit 2]
    (builder.draft.table = some " \n".toList ∧ Text.Blank " \n".toList ∧ " \n".toList ≠ []) ∧
      builder.build = .ok ⟨builder.draft.queryShowing builder.command .table
        (builder.draft.keyspaceName?.elim [] fun keyspace => keyspace ++ ['.']),
        builder.draft.params builder.command⟩ ∧
      builder.build = .ok ⟨"SELECT * FROM ks. ORDER BY LIMIT ?".toList, [.int 2]⟩ := by
  intro builder
  have given : builder.draft.table = some " \n".toList := rfl
  have blank : Text.Blank " \n".toList := by decide
  have nonempty : " \n".toList ≠ [] := by decide
  have shown := ((build_of_blank_texts builder).1 " \n".toList given blank).2 nonempty
  have built : builder.build = .ok ⟨"SELECT * FROM ks. ORDER BY LIMIT ?".toList, [.int 2]⟩ := rfl
  exact ⟨⟨given, blank, nonempty⟩, shown, built⟩

/-- A space for a table, a keyspace or an order is built into the statement, where the empty text is
refused or left out. -/
theorem space_differs_from_empty :
    Text.Blank [' '] ∧
    (((new .select).after [.table [' ']]).build = .ok ⟨"SELECT * FROM".toList, []⟩ ∧
      ((new .select).after [.table []]).build = .error .missingTable) ∧
    (((new .select).after [.qualifiedTable [' '] ['t']]).build =
        .ok ⟨"SELECT * FROM .t".toList, []⟩ ∧
      ((new .select).after [.qualifiedTable [] ['t']]).build =
        .ok ⟨"SELECT * FROM t".toList, []⟩) ∧
    ((new .select).after [.table ['t'], .order [' ']]).build =
        .ok ⟨"SELECT * FROM t ORDER BY".toList, []⟩ ∧
      ((new .select).after [.table ['t'], .order []]).build =
        .ok ⟨"SELECT * FROM t".toList, []⟩ := by
  have blank : Text.Blank [' '] := by decide
  exact ⟨blank, ⟨rfl, rfl⟩, ⟨rfl, rfl⟩, rfl, rfl⟩

end Builder

end PreparedCql
