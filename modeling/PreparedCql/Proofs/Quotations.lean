import PreparedCql.Proofs.History
import PreparedCql.Proofs.Rendering
import PreparedCql.Proofs.Squeezing

/-! Quotations that callers write into names and clauses. Spacing a statement does not stop at
quotes, so a quotation comes out of it as it would if it were spaced on its own: with its quotes and
its words in their places, and with each run of blanks in it folded to one space. -/

namespace PreparedCql

namespace Text

/-- Every second of the runs between quotes, as far as a quote follows them. The first run stands
outside of all quotations. -/
def enclosed : List Text → List Text
  | _ :: inside :: outside :: rest => inside :: enclosed (outside :: rest)
  | _ => []

/-- What a text has between quotes, from left to right and with the quotes. Each quote opens a
quotation or closes the one that is open. -/
def quotations (text : Text) : List Text :=
  (enclosed (Words.cut (· == '\'') text)).map fun content => '\'' :: content ++ ['\'']

/-- Every quotation in the text is closed. -/
def Balanced (text : Text) : Prop := Even (text.count '\'')

instance : DecidablePred Balanced := fun text => inferInstanceAs (Decidable (Even (text.count '\'')))

/-! A text has no quotation, or one that is opened and not closed, or a closed one and a rest. -/

theorem quotation_induction {motive : Text → Prop}
    (plain : ∀ text, '\'' ∉ text → motive text)
    (opened : ∀ before rest, '\'' ∉ before → '\'' ∉ rest → motive (before ++ '\'' :: rest))
    (closed : ∀ before content after, '\'' ∉ before → '\'' ∉ content → motive after →
      motive (before ++ '\'' :: (content ++ '\'' :: after)))
    (text : Text) : motive text := by
  induction size : text.length using Nat.strong_induction_on generalizing text with
  | _ size ih =>
    by_cases quoted : '\'' ∈ text
    · obtain ⟨before, rest, rfl, outside⟩ := List.eq_append_cons_of_mem quoted
      by_cases again : '\'' ∈ rest
      · obtain ⟨content, after, rfl, inside⟩ := List.eq_append_cons_of_mem again
        refine closed before content after outside inside (ih after.length ?_ after rfl)
        simp only [List.length_append, List.length_cons] at size
        omega
      · exact opened before rest outside again
    · exact plain text quoted

theorem cut_of_not_mem {text : Text} (absent : '\'' ∉ text) :
    Words.cut (· == '\'') text = [text] := by
  apply Words.cut_of_no_separator
  intro character member
  apply beq_false_of_ne
  rintro rfl
  exact absent member

theorem cut_append_quote (before rest : Text) :
    Words.cut (· == '\'') (before ++ '\'' :: rest) =
      Words.cut (· == '\'') before ++ Words.cut (· == '\'') rest :=
  Words.cut_append_separator (by decide) before rest

theorem quotations_of_plain {text : Text} (plain : '\'' ∉ text) : quotations text = [] := by
  rw [quotations, cut_of_not_mem plain]
  rfl

theorem quotations_of_opened {before rest : Text} (outside : '\'' ∉ before) (inside : '\'' ∉ rest) :
    quotations (before ++ '\'' :: rest) = [] := by
  rw [quotations, cut_append_quote, cut_of_not_mem outside, cut_of_not_mem inside]
  rfl

theorem quotations_of_closed {before content : Text} (outside : '\'' ∉ before)
    (inside : '\'' ∉ content) (after : Text) :
    quotations (before ++ '\'' :: (content ++ '\'' :: after)) =
      ('\'' :: content ++ ['\'']) :: quotations after := by
  rw [quotations, quotations, cut_append_quote, cut_append_quote, cut_of_not_mem outside,
    cut_of_not_mem inside]
  cases pieces : Words.cut (· == '\'') after with
  | nil => exact absurd pieces (Words.cut_ne_nil _ after)
  | cons => rfl

theorem exists_content_of_mem_quotations {text quotation : Text}
    (member : quotation ∈ quotations text) :
    ∃ content, quotation = '\'' :: content ++ ['\''] := by
  obtain ⟨content, -, rfl⟩ := List.mem_map.mp member
  exact ⟨content, rfl⟩

theorem quotations_plain_append {before : Text} (outside : '\'' ∉ before) (text : Text) :
    quotations (before ++ text) = quotations text := by
  induction text using quotation_induction with
  | plain text plain => rw [quotations_of_plain plain, quotations_of_plain (by simp [outside, plain])]
  | opened first rest none inside =>
    rw [quotations_of_opened none inside, ← List.append_assoc,
      quotations_of_opened (by simp [outside, none]) inside]
  | closed first content after none inside _ =>
    rw [quotations_of_closed none inside, ← List.append_assoc,
      quotations_of_closed (by simp [outside, none]) inside]

/-- After a text whose quotations are closed, reading starts anew. -/
theorem quotations_append {left : Text} (balanced : left.Balanced) (right : Text) :
    quotations (left ++ right) = quotations left ++ quotations right := by
  induction left using quotation_induction with
  | plain left plain => rw [quotations_of_plain plain, quotations_plain_append plain, List.nil_append]
  | opened before rest outside inside =>
    have odd : (before ++ '\'' :: rest).count '\'' = 1 := by
      simp [List.count_eq_zero.mpr outside, List.count_eq_zero.mpr inside]
    simp [Balanced, odd] at balanced
  | closed before content after outside inside ih =>
    have count :
        (before ++ '\'' :: (content ++ '\'' :: after)).count '\'' = after.count '\'' + 2 := by
      simp [List.count_eq_zero.mpr outside, List.count_eq_zero.mpr inside]
    have later : after.Balanced := by
      rw [Balanced, count, Nat.even_add] at balanced
      exact balanced.mpr even_two
    have apart : before ++ '\'' :: (content ++ '\'' :: after) ++ right =
        before ++ '\'' :: (content ++ '\'' :: (after ++ right)) := by simp
    rw [apart, quotations_of_closed outside inside, quotations_of_closed outside inside, ih later]
    rfl

theorem quotations_append_plain {after : Text} (plain : '\'' ∉ after) (text : Text) :
    quotations (text ++ after) = quotations text := by
  induction text using quotation_induction with
  | plain text none => rw [quotations_of_plain none, quotations_of_plain (by simp [none, plain])]
  | opened before rest outside inside =>
    rw [quotations_of_opened outside inside, List.append_assoc, List.cons_append,
      quotations_of_opened outside (by simp [inside, plain])]
  | closed before content rest outside inside ih =>
    have apart : before ++ '\'' :: (content ++ '\'' :: rest) ++ after =
        before ++ '\'' :: (content ++ '\'' :: (rest ++ after)) := by simp
    rw [apart, quotations_of_closed outside inside, quotations_of_closed outside inside, ih]

theorem quotations_intercalate {separator : Text} (unquoted : '\'' ∉ separator) {parts : List Text}
    (balanced : ∀ part ∈ parts, part.Balanced) :
    quotations (separator.intercalate parts) = parts.flatMap quotations := by
  induction parts with
  | nil => rfl
  | cons first rest ih =>
    have later := ih fun part member => balanced part (List.mem_cons_of_mem _ member)
    cases rest with
    | nil => rw [List.intercalate_singleton, List.flatMap_singleton]
    | cons second others =>
      rw [List.intercalate_cons_cons, List.append_assoc,
        quotations_append (balanced first List.mem_cons_self), quotations_plain_append unquoted,
        later]
      rfl

theorem quotations_squeeze (text : Text) :
    quotations (squeeze text) = (quotations text).map squeeze := by
  have unquoted : ∀ {part : Text}, '\'' ∉ part → '\'' ∉ squeeze part := by
    intro part absent member
    rcases mem_of_mem_squeeze member with space | inside
    · cases space
    · exact absent inside
  induction text using quotation_induction with
  | plain text plain =>
    rw [quotations_of_plain plain, quotations_of_plain (unquoted plain), List.map_nil]
  | opened before rest outside inside =>
    rw [squeeze_append_of_not_blank isBlank_quote, quotations_of_opened outside inside,
      quotations_of_opened (unquoted outside) (unquoted inside), List.map_nil]
  | closed before content after outside inside ih =>
    rw [squeeze_append_of_not_blank isBlank_quote, squeeze_append_of_not_blank isBlank_quote,
      quotations_of_closed outside inside, quotations_of_closed (unquoted outside) (unquoted inside),
      ih, List.map_cons, squeeze_append_of_not_blank isBlank_quote,
      squeeze_cons_of_not_blank isBlank_quote]
    rfl

/-- Spacing a text spaces each of its quotations on its own. -/
theorem quotations_collapse (text : Text) :
    quotations (collapse text) = (quotations text).map collapse := by
  obtain ⟨trail, blanks, folded⟩ := squeeze_eq_collapse text
  have after : '\'' ∉ trail := by
    intro member
    cases blanks _ member
  have before : '\'' ∉ if text.head?.any isBlank = true then [' '] else [] := by
    split
    · decide
    · decide
  calc
    quotations (collapse text)
    _ = quotations (squeeze text) := by
      rw [folded, quotations_append_plain after, quotations_plain_append before]
    _ = (quotations text).map squeeze := quotations_squeeze text
    _ = (quotations text).map collapse := by
      apply List.map_congr_left
      intro quotation member
      obtain ⟨content, rfl⟩ := exists_content_of_mem_quotations member
      exact (collapse_between_letters isBlank_quote content).symm

theorem collapse_quotation_eq_self_iff {text quotation : Text}
    (member : quotation ∈ quotations text) :
    collapse quotation = quotation ↔ quotation.SingleSpaced := by
  obtain ⟨content, rfl⟩ := exists_content_of_mem_quotations member
  rw [collapse_between_letters isBlank_quote, squeeze_eq_self_iff]

theorem balanced_of_plain {text : Text} (plain : '\'' ∉ text) : text.Balanced := by
  rw [Balanced, List.count_eq_zero.mpr plain]
  exact Even.zero

theorem Balanced.append {left right : Text} (before : left.Balanced) (after : right.Balanced) :
    (left ++ right).Balanced := by
  rw [Balanced, List.count_append]
  exact Even.add before after

theorem Balanced.intercalate {separator : Text} (between : separator.Balanced) {parts : List Text}
    (balanced : ∀ part ∈ parts, part.Balanced) : Balanced (separator.intercalate parts) := by
  induction parts with
  | nil => exact Even.zero
  | cons first rest ih =>
    have head := balanced first List.mem_cons_self
    have tail := ih fun part member => balanced part (List.mem_cons_of_mem _ member)
    cases rest with
    | nil => rwa [List.intercalate_singleton]
    | cons second others =>
      rw [List.intercalate_cons_cons]
      exact (head.append between).append tail

end Text

open Text

namespace Call

/-- The texts given in a call. -/
def texts : Call → List Text
  | table name => [name]
  | qualifiedTable keyspace name => [keyspace, name]
  | field names => names
  | predicate clause _ | rawPredicate clause | order clause => [clause]
  | value name _ | set name _ | option name _ => [name]
  | limit _ | upsert _ | clear => []

end Call

namespace Draft

def texts (draft : Draft) : List Text :=
  draft.keyspace.toList ++ draft.table.toList ++ draft.fields ++ draft.predicates.clauses ++
    draft.order.toList ++ draft.inserts.names ++ draft.assignments.names ++ draft.options.names

theorem mem_texts_record {draft : Draft} {call : Call} {text : Text}
    (member : text ∈ (draft.record call).texts) : text ∈ draft.texts ∨ text ∈ call.texts := by
  cases call <;> simp [texts, record, Bindings.add, Predicates.add, Call.texts] at member ⊢ <;> tauto

end Draft

/-- Every text that a builder holds was given in a call of its history. -/
theorem Builder.exists_call_of_mem_texts (command : Command) (calls : List Call) :
    ∀ text ∈ ((new command).after calls).draft.texts,
      ∃ call ∈ Call.history calls, text ∈ call.texts := by
  apply after_induction (motive := fun history builder =>
    ∀ text ∈ builder.draft.texts, ∃ call ∈ history, text ∈ call.texts)
  · intro text member
    cases member
  · intro history builder call _ _ given text member
    rcases Draft.mem_texts_record member with earlier | last
    · obtain ⟨source, before, inside⟩ := given text earlier
      exact ⟨source, List.mem_append_left _ before, inside⟩
    · exact ⟨call, List.mem_append_right _ (List.mem_singleton_self call), last⟩

/-- The text of a fragment closes what it opens if the texts of the draft do. -/
theorem Fragment.balanced_text {draft : Draft} (balanced : ∀ text ∈ draft.texts, text.Balanced)
    (fragment : Fragment) : (fragment.text draft).Balanced := by
  have comma : Balanced ", ".toList := balanced_of_plain (by decide)
  have conjunction : Balanced " AND ".toList := balanced_of_plain (by decide)
  cases fragment with
  | field =>
    rw [text]
    split
    · exact balanced_of_plain (by decide)
    · exact comma.intercalate fun name member => balanced name (by simp [Draft.texts, member])
  | table =>
    have named : (draft.table.getD []).Balanced := by
      cases given : draft.table with
      | none => exact Even.zero
      | some name => exact balanced name (by simp [Draft.texts, given])
    rw [text]
    cases qualified : draft.keyspaceName? with
    | none => exact named
    | some keyspace =>
      have given := (Option.filter_eq_some_iff.mp qualified).1
      have dot : Balanced ['.'] := balanced_of_plain (by decide)
      have first : keyspace.Balanced := balanced keyspace (by simp [Draft.texts, given])
      exact first.append (dot.append named)
  | predicate =>
    rw [text]
    split
    · exact Even.zero
    · have keyword : Balanced "WHERE ".toList := balanced_of_plain (by decide)
      exact keyword.append (conjunction.intercalate fun clause member =>
        balanced clause (by simp [Draft.texts, member]))
  | order =>
    rw [text]
    cases ordered : draft.orderClause? with
    | none => exact Even.zero
    | some clause =>
      have given := (Option.filter_eq_some_iff.mp ordered).1
      have keyword : Balanced "ORDER BY ".toList := balanced_of_plain (by decide)
      exact keyword.append (balanced clause (by simp [Draft.texts, given]))
  | limit =>
    rw [text]
    split
    · exact balanced_of_plain (by decide)
    · exact Even.zero
  | value =>
    have names : ∀ name ∈ draft.inserts.names, name.Balanced := fun name member =>
      balanced name (by simp [Draft.texts, member])
    have markers : ∀ marker ∈ draft.inserts.names.map fun _ => ['?'], Balanced marker :=
      List.forall_mem_map.mpr fun _ _ => balanced_of_plain (by decide)
    have opening : Balanced ['('] := balanced_of_plain (by decide)
    have keyword : Balanced ") VALUES (".toList := balanced_of_plain (by decide)
    have closing : Balanced [')'] := balanced_of_plain (by decide)
    exact (((opening.append (comma.intercalate names)).append keyword).append
      (comma.intercalate markers)).append closing
  | set =>
    have bound : Balanced " = ?".toList := balanced_of_plain (by decide)
    exact comma.intercalate (List.forall_mem_map.mpr fun name member =>
      (balanced name (by simp [Draft.texts, member])).append bound)
  | option =>
    rw [text]
    split
    · exact Even.zero
    · have keyword : Balanced "USING ".toList := balanced_of_plain (by decide)
      have bound : Balanced " ?".toList := balanced_of_plain (by decide)
      exact keyword.append (conjunction.intercalate (List.forall_mem_map.mpr fun name member =>
        (balanced name (by simp [Draft.texts, member])).append bound))
  | condition =>
    rw [text]
    split
    · exact Even.zero
    · exact balanced_of_plain (by decide)

theorem Command.unquoted_keyword {command : Command} {words : String}
    (member : .keyword words ∈ command.template) : '\'' ∉ words.toList := by
  cases command
  all_goals
    simp only [template, List.mem_cons, Part.keyword.injEq, reduceCtorEq, List.not_mem_nil, or_false,
      false_or] at member
  case insert =>
    rw [member]
    decide
  all_goals rcases member with rfl | rfl <;> decide

namespace Part

theorem balanced_text {command : Command} {part : Part} (member : part ∈ command.template)
    {draft : Draft} (balanced : ∀ text ∈ draft.texts, text.Balanced) :
    (part.text command draft).Balanced := by
  cases part with
  | keyword words => exact balanced_of_plain (Command.unquoted_keyword member)
  | slot fragment =>
    rw [text, Command.shown]
    split
    · exact Even.zero
    · exact fragment.balanced_text balanced

/-- A part shows the quotations of its fragment. The star that a deletion leaves out has none. -/
theorem quotations_text {command : Command} {part : Part} (member : part ∈ command.template)
    (draft : Draft) :
    quotations (part.text command draft) =
      part.fragment?.toList.flatMap fun fragment => quotations (fragment.text draft) := by
  cases part with
  | keyword words => exact quotations_of_plain (Command.unquoted_keyword member)
  | slot fragment =>
    rw [text, fragment?, Option.toList_some, List.flatMap_singleton, Command.shown]
    split
    next whole =>
      rw [whole.2.2]
      decide
    next => rfl

end Part

namespace Draft

/-- What the fragments of the command have between quotes, before the statement is spaced. -/
def quotations (draft : Draft) (command : Command) : List Text :=
  command.fragments.flatMap fun fragment => (fragment.text draft).quotations

theorem quotations_query {draft : Draft} (balanced : ∀ text ∈ draft.texts, text.Balanced)
    (command : Command) :
    (draft.query command).quotations = (draft.quotations command).map collapse := by
  have parts : ∀ text ∈ command.template.map (Part.text command draft), text.Balanced :=
    List.forall_mem_map.mpr fun _ member => Part.balanced_text member balanced
  rw [query, render_slots, quotations_collapse]
  congr 1
  calc
    Text.quotations ([' '].intercalate (command.template.map (Part.text command draft)))
    _ = command.template.flatMap fun part => (part.text command draft).quotations := by
      rw [quotations_intercalate (by decide) parts, List.flatMap_map]
    _ = command.template.flatMap fun part =>
        part.fragment?.toList.flatMap fun fragment => (fragment.text draft).quotations :=
      List.flatMap_congr fun part member => Part.quotations_text member draft
    _ = draft.quotations command := by
      rw [quotations, ← command.template_fragments, List.filterMap_eq_flatMap_toList,
        List.flatMap_assoc]

/-- A statement keeps its quotations as they were written exactly if all of them are single-spaced. -/
theorem quotations_query_eq_iff {draft : Draft} (balanced : ∀ text ∈ draft.texts, text.Balanced)
    (command : Command) :
    (draft.query command).quotations = draft.quotations command ↔
      ∀ quotation ∈ draft.quotations command, quotation.SingleSpaced := by
  rw [quotations_query balanced]
  conv_lhs => rhs; rw [← List.map_id (draft.quotations command)]
  rw [List.map_inj_left]
  refine forall₂_congr fun quotation member => ?_
  obtain ⟨fragment, -, inside⟩ := List.mem_flatMap.mp member
  exact collapse_quotation_eq_self_iff inside

end Draft

namespace Builder

/-- If every text of the history closes the quotations that it opens, then a built statement has the
quotations of the fragments that it renders, in their order, each of them with its runs of blanks
folded to one space. So they are kept as they were written exactly if they have no blanks but single
spaces. In particular a selection has the quotations of its only clause. -/
theorem quotations_of_build :
    (∀ (command : Command) (calls : List Call) (statement : Statement),
      (∀ call ∈ Call.history calls, ∀ text ∈ call.texts, text.Balanced) →
      ((new command).after calls).build = .ok statement →
        let written := ((new command).after calls).draft.quotations command
        statement.query.quotations = written.map Text.collapse ∧
          (statement.query.quotations = written ↔
            ∀ quotation ∈ written, quotation.SingleSpaced)) ∧
    ∀ (clause : Text) (values : List Value), clause.markers = values.length → clause.Balanced →
      ∃ statement : Statement,
        ((select.table "t".toList).predicate clause values >>= Builder.build) = .ok statement ∧
          statement.query.quotations = clause.quotations.map Text.collapse ∧
          (statement.query.quotations = clause.quotations ↔
            ∀ quotation ∈ clause.quotations, quotation.SingleSpaced) := by
  constructor
  · intro command calls statement balanced built written
    obtain ⟨-, rfl⟩ := (build_eq_ok_iff _ statement).mp built
    have closed : ∀ text ∈ ((new command).after calls).draft.texts, text.Balanced := by
      intro text member
      obtain ⟨call, made, given⟩ := exists_call_of_mem_texts command calls text member
      exact balanced call made text given
    rw [command_after]
    exact ⟨Draft.quotations_query closed command, Draft.quotations_query_eq_iff closed command⟩
  · intro clause values count balanced
    let draft : Draft :=
      (select.table "t".toList).draft.record (.predicate clause (values.map toValue))
    have accepted : Call.refusal? (.predicate clause (values.map toValue)) = none := by
      rw [Call.refusal?, Call.mismatch?, List.length_map, if_pos count]
    have closed : ∀ text ∈ draft.texts, text.Balanced := by
      intro text member
      have named : text = "t".toList ∨ text = clause := by
        simpa [draft, Draft.texts, Draft.record, select, table, record, new, Predicates.add]
          using member
      rcases named with rfl | rfl
      · decide
      · exact balanced
    have shown : Fragment.text draft .predicate = "WHERE ".toList ++ clause :=
      congrArg ("WHERE ".toList ++ ·) List.intercalate_singleton
    have only : draft.quotations .select = clause.quotations := by
      have rendered :
          draft.quotations .select = (Fragment.text draft .predicate).quotations ++ [] := rfl
      rw [rendered, List.append_nil, shown, quotations_plain_append (by decide)]
    refine ⟨⟨draft.query .select, draft.params .select⟩, ?_, ?_, ?_⟩
    · rw [predicate, apply_eq_record accepted]
      rfl
    · rw [Draft.quotations_query closed, only]
    · rw [← only]
      exact Draft.quotations_query_eq_iff closed .select

/-- An update that keeps one quotation in a column, folds one that has a tab and two spaces in it, and
leaves a third out with a call that an update has no place for. -/
theorem quotations_of_build_update :
    let calls : List Call := [.table "t".toList,
      .predicate "k = ' a\t  b '''' '  AND j = ?".toList [.null], .order "'  '".toList,
      .set "m['it s']".toList (.text "'".toList)]
    let statement : Statement :=
      ⟨"UPDATE t SET m['it s'] = ? WHERE k = ' a b '''' ' AND j = ? IF EXISTS".toList,
        [.text "'".toList, .null]⟩
    let written := ((new .update).after calls).draft.quotations .update
    ((∀ call ∈ Call.history calls, ∀ text ∈ call.texts, text.Balanced) ∧
      ((new .update).after calls).build = .ok statement) ∧
    written = ["'it s'".toList, "' a\t  b '".toList, "''".toList, "' '".toList] ∧
    statement.query.quotations = written.map Text.collapse ∧
      (statement.query.quotations = written ↔ ∀ quotation ∈ written, quotation.SingleSpaced) := by
  intro calls statement written
  have balanced : ∀ call ∈ Call.history calls, ∀ text ∈ call.texts, text.Balanced := by decide
  have built : ((new .update).after calls).build = .ok statement := rfl
  exact ⟨⟨balanced, built⟩, by decide, quotations_of_build.1 .update calls statement balanced built⟩

/-- A quotation with two spaces in it is built into another one than was written. -/
theorem quotation_changed_by_spacing :
    let calls : List Call := [.table "t".toList, .rawPredicate "a = 'x  y'".toList]
    let statement : Statement := ⟨"SELECT * FROM t WHERE a = 'x y'".toList, []⟩
    let written := ((new .select).after calls).draft.quotations .select
    ((∀ call ∈ Call.history calls, ∀ text ∈ call.texts, text.Balanced) ∧
      ((new .select).after calls).build = .ok statement) ∧
    written = ["'x  y'".toList] ∧ statement.query.quotations = ["'x y'".toList] ∧
      statement.query.quotations ≠ written := by
  intro calls statement written
  have balanced : ∀ call ∈ Call.history calls, ∀ text ∈ call.texts, text.Balanced := by decide
  have built : ((new .select).after calls).build = .ok statement := rfl
  exact ⟨⟨balanced, built⟩, rfl, rfl, by decide⟩

end Builder

end PreparedCql
