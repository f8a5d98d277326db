import PreparedCql.Proofs.JsonStandard
import PreparedCql.Proofs.Readability
import PreparedCql.Statement
import PreparedCql.Value.Conversion

/-! JSON texts can be read back, whichever standard writer they are from. A string ends at its first
quote that is not escaped, a number at the first delimiter behind it, and an array with the bracket that
closes it. All that JSON loses of a value are the floats in it that are not finite, which it writes as
null, and whether a list of bytes is a blob. -/

namespace PreparedCql

namespace Text

/-- The number that a lower-case hexadecimal digit stands for. -/
def hexValue (digit : Char) : Nat :=
  if digit.isDigit then digit.toNat - '0'.toNat else digit.toNat - 'a'.toNat + 10

/-- The first character of a string by what is written for it, and the text behind that. There is none
at the end of the string. -/
def jsonCharacter? : Text → Option (Char × Text)
  | [] => none
  | '"' :: _ => none
  | '\\' :: 'u' :: first :: second :: third :: fourth :: rest =>
      some (Char.ofNat (0x1000 * hexValue first + 0x100 * hexValue second + 0x10 * hexValue third +
        hexValue fourth), rest)
  | '\\' :: letter :: rest =>
      (shortEscapes.find? (·.2 == letter)).map fun escape => (escape.1, rest)
  | character :: rest => some (character, rest)

theorem hexValue_digitChar {number : Nat} (small : number < 16) :
    hexValue (Nat.digitChar number) = number := by
  have all : ∀ number < 16, hexValue (Nat.digitChar number) = number := by decide
  exact all number small

theorem JsonCharacter.read {character : Char} {written : Text}
    (shown : JsonCharacter character written) (rest : Text) :
    jsonCharacter? (written ++ rest) = some (character, rest) := by
  cases shown with
  | raw visible quote slash =>
    rw [List.singleton_append]
    unfold jsonCharacter?
    split <;> simp_all
  | short escape =>
    have table : ∀ escape ∈ shortEscapes,
        jsonCharacter? ('\\' :: escape.2 :: rest) = some (escape.1, rest) := by
      simp only [shortEscapes, List.forall_mem_cons]
      exact ⟨rfl, rfl, rfl, rfl, rfl, rfl, rfl, rfl, nofun⟩
    exact table _ escape
  | point small =>
    change some (Char.ofNat _, rest) = _
    rw [hexValue_digitChar (by omega), hexValue_digitChar (by omega), hexValue_digitChar (by omega),
      hexValue_digitChar (by omega)]
    have point : 0x1000 * (character.toNat / 0x1000) + 0x100 * (character.toNat / 0x100 % 16) +
        0x10 * (character.toNat / 0x10 % 16) + character.toNat % 16 = character.toNat := by
      omega
    rw [point, Char.ofNat_toNat]

/-- What is written between quotes ends at the first quote that is not escaped. -/
theorem JsonCharacters.append_quote_inj {first second written other left right : Text}
    (characters : JsonCharacters first written) (characters' : JsonCharacters second other)
    (same : written ++ '"' :: left = other ++ '"' :: right) : first = second ∧ left = right := by
  have read := congrArg jsonCharacter? same
  induction characters generalizing second other with
  | nil =>
    cases characters' with
    | nil => exact ⟨rfl, List.tail_eq_of_cons_eq same⟩
    | cons head' tail' =>
      rw [List.append_assoc, head'.read] at read
      cases read
  | cons head tail ih =>
    rw [List.append_assoc, head.read] at read
    cases characters' with
    | nil => cases read
    | cons head' tail' =>
      rw [List.append_assoc, head'.read] at read
      obtain ⟨firsts, rest⟩ := Prod.mk.inj (Option.some.inj read)
      obtain ⟨texts, ends⟩ := ih tail' rest (congrArg jsonCharacter? rest)
      exact ⟨congrArg₂ List.cons firsts texts, ends⟩

end Text

namespace JsonWriter.Standard

variable {writer : JsonWriter} (standard : writer.Standard)

include standard

theorem string_append_inj {first second left right : Text}
    (same : writer.string first ++ left = writer.string second ++ right) :
    first = second ∧ left = right := by
  obtain ⟨written, characters, string⟩ := standard.string first
  obtain ⟨other, characters', string'⟩ := standard.string second
  rw [string, string'] at same
  simp only [List.cons_append, List.append_assoc, List.cons.injEq, true_and, List.nil_append] at same
  exact characters.append_quote_inj characters' same

theorem array_append (parts : List Text) (rest : Text) :
    writer.array parts ++ rest = '[' :: ([','].intercalate parts ++ ']' :: rest) := by
  rw [standard.array]
  simp only [List.cons_append, List.append_assoc, List.nil_append]

theorem numeric_integer (number : Int) : (writer.integer number).Numeric := by
  rw [standard.integer]
  exact Text.numeric_ofInt number

end JsonWriter.Standard

namespace Value

mutual

/-- What JSON keeps of a value, at every depth: a float that is not finite is null, and a blob is the
list of its bytes. -/
def normal : Value → Value
  | .float number => if number.isFinite then .float number else .null
  | .blob bytes => .ofList bytes
  | .list items => .list (normals items)
  | value => value

def normals : List Value → List Value
  | [] => []
  | item :: items => item.normal :: normals items

end

theorem normals_eq_map (items : List Value) : normals items = items.map normal := by
  induction items with
  | nil => rfl
  | cons item items ih => rw [normals, ih, List.map_cons]

theorem normal_list (items : List Value) : (list items).normal = list (items.map normal) := by
  rw [normal, normals_eq_map]

theorem normal_of_finite {number : Binary64} (finite : number.isFinite = true) :
    (float number).normal = float number := by
  rw [normal, if_pos finite]

theorem normal_of_not_finite {number : Binary64} (infinite : number.isFinite = false) :
    (float number).normal = null := by
  rw [normal, if_neg (by simp [infinite])]

/-- Only finite floats are normal. -/
theorem finite_of_normal {number : Binary64} (normal : (float number).normal = float number) :
    number.isFinite = true := by
  by_contra infinite
  rw [normal_of_not_finite (eq_false_of_ne_true infinite)] at normal
  cases normal

theorem normal_ofList (bytes : List UInt8) : (ofList bytes).normal = ofList bytes := by
  rw [ofList, normal_list, List.map_map]
  rfl

theorem normal_normal (value : Value) : value.normal.normal = value.normal := by
  induction value using inductionOnItems with
  | float number =>
    cases finite : number.isFinite with
    | true => rw [normal_of_finite finite, normal_of_finite finite]
    | false =>
      rw [normal_of_not_finite finite]
      rfl
  | blob bytes => exact normal_ofList bytes
  | list items ih =>
    rw [normal_list, normal_list, List.map_map]
    exact congrArg list (List.map_congr_left ih)
  | _ => rfl

/-- JSON keeps the same of both values. -/
def SameInJson (value other : Value) : Prop := value.normal = other.normal

/-- The kind that JSON shows, by the text of a value and whatever follows it. -/
def kindOfJson (text : Text) : Kind :=
  match text.head? with
  | some '"' => .text
  | some '[' => .list
  | some 'n' => .null
  | some 't' | some 'f' => .bool
  | _ =>
      if (text.takeWhile (· ∉ Text.breaks)).all fun character =>
        character.isDigit || character == '-' then .int
      else .float

theorem kindOfJson_append {word rest : Text} (numeric : word.Numeric) (delimited : rest.Delimited) :
    kindOfJson (word ++ rest) =
      if word.all fun character => character.isDigit || character == '-' then .int else .float := by
  have start {first : Char} (outside : first ∉ Text.delimiters)
      (other : ¬(first.isDigit = true ∨ first ∈ Text.numberMarks)) :
      (word ++ rest).head? ≠ some first := by
    cases word with
    | nil => exact delimited.head?_ne outside
    | cons character word =>
      intro head
      exact other (Option.some.inj head ▸ numeric character List.mem_cons_self)
  rw [kindOfJson, numeric.word.takeWhile_append delimited]
  split
  case h_6 => rfl
  all_goals exact absurd ‹(word ++ rest).head? = some _› (start (by decide) (by decide))

section Reading

variable {writer : JsonWriter}

theorem json_toValue (byte : UInt8) :
    (toValue byte).json writer = writer.integer byte.toNat := by
  have bound := byte.toNat_lt
  have wide : byte.toUInt64.toBitVec.toNat = byte.toNat := UInt8.toNat_toUInt64 byte
  change writer.integer byte.toUInt64.toBitVec.toInt = _
  rw [BitVec.toInt_eq_toNat_of_lt (by omega), wide]

theorem json_blob (bytes : List UInt8) : (blob bytes).json writer = (ofList bytes).json writer := by
  rw [ofList, json_list, json, List.map_map]
  congr 1
  exact List.map_congr_left fun byte _ => (json_toValue byte).symm

variable (standard : writer.Standard)

include standard

theorem json_of_not_finite {number : Binary64} (infinite : number.isFinite = false) :
    (float number).json writer = null.json writer :=
  (standard.float_of_not_finite number infinite).trans standard.null.symm

/-- What JSON does not keep of a value does not show in its text. -/
theorem json_normal (value : Value) : value.normal.json writer = value.json writer := by
  induction value using inductionOnItems with
  | float number =>
    cases finite : number.isFinite with
    | true => rw [normal_of_finite finite]
    | false => rw [normal_of_not_finite finite, json_of_not_finite standard finite]
  | blob bytes => exact (json_blob bytes).symm
  | list items ih =>
    rw [normal_list, json_list, json_list, List.map_map]
    congr 1
    exact List.map_congr_left ih
  | _ => rfl

theorem kindOfJson_of_normal {value : Value} (normal : value.normal = value) {rest : Text}
    (delimited : rest.Delimited) : kindOfJson (value.json writer ++ rest) = value.kind := by
  cases value with
  | null =>
    rw [json, standard.null]
    rfl
  | bool flag =>
    rw [json, standard.bool]
    cases flag <;> rfl
  | int number =>
    rw [json, standard.integer, kindOfJson_append (Text.numeric_ofInt _) delimited]
    refine if_pos (List.all_eq_true.mpr fun character member => ?_)
    rw [Bool.or_eq_true, beq_iff_eq]
    exact Text.mem_ofInt member
  | float number =>
    have finite := finite_of_normal normal
    rw [json, kindOfJson_append (standard.numeric_float number finite) delimited]
    refine if_neg fun all => ?_
    rw [List.all_eq_true] at all
    rcases standard.point_or_exponent_mem_float number finite with point | exponent
    · cases all _ point
    · cases all _ exponent
  | text content =>
    obtain ⟨written, -, string⟩ := standard.string content
    rw [json, string]
    rfl
  | blob bytes => cases normal
  | list items =>
    rw [json_list, standard.array]
    rfl

theorem normal_kind_eq_of_json {value other : Value} {left right : Text} (delimited : left.Delimited)
    (delimited' : right.Delimited) (same : value.json writer ++ left = other.json writer ++ right) :
    value.normal.kind = other.normal.kind := by
  rw [← json_normal standard value, ← json_normal standard other] at same
  rw [← kindOfJson_of_normal standard value.normal_normal delimited, same,
    kindOfJson_of_normal standard other.normal_normal delimited']

/-- The texts of all kinds but text and lists are words. -/
theorem word_of_normal {value : Value} (normal : value.normal = value) (text : value.kind ≠ .text)
    (list : value.kind ≠ .list) : (value.json writer).Word := by
  cases value with
  | null =>
    rw [json, standard.null]
    decide
  | bool flag =>
    rw [json, standard.bool]
    cases flag <;> decide
  | int number => exact (standard.numeric_integer number.toInt).word
  | float number => exact (standard.numeric_float number (finite_of_normal normal)).word
  | text content => exact absurd rfl text
  | blob bytes => cases normal
  | list items => exact absurd rfl list

/-- An element of an array is not empty and does not start like the end of the array. -/
theorem exists_cons_json (value : Value) :
    ∃ first rest, value.json writer = first :: rest ∧ first ≠ ']' := by
  have normal := value.normal_normal
  rw [← json_normal standard value]
  cases kept : value.normal with
  | null => exact ⟨'n', _, standard.null, by decide⟩
  | bool flag =>
    cases flag with
    | true => exact ⟨'t', _, standard.bool true, by decide⟩
    | false => exact ⟨'f', _, standard.bool false, by decide⟩
  | int number =>
    refine (standard.numeric_integer number.toInt).exists_cons ?_
    rw [standard.integer]
    exact Text.ofInt_ne_nil _
  | float number =>
    rw [kept] at normal
    have finite := finite_of_normal normal
    refine (standard.numeric_float number finite).exists_cons fun empty => ?_
    rcases standard.point_or_exponent_mem_float number finite with point | exponent
    · cases empty ▸ point
    · cases empty ▸ exponent
  | text content =>
    obtain ⟨written, -, string⟩ := standard.string content
    exact ⟨'"', _, string, by decide⟩
  | blob bytes => exact ⟨'[', _, standard.array _, by decide⟩
  | list items => exact ⟨'[', _, standard.array _, by decide⟩

/-- Of normal values whose texts are words, those of one kind are told by their texts. -/
theorem eq_of_json_of_normal {value other : Value} (normal : value.normal = value)
    (normal' : other.normal = other) (text : value.kind ≠ .text) (list : value.kind ≠ .list)
    (kinds : value.kind = other.kind) (same : value.json writer = other.json writer) :
    value = other := by
  cases value with
  | text content => exact absurd rfl text
  | list items => exact absurd rfl list
  | blob bytes => cases normal
  | null =>
    cases other with
    | null => rfl
    | _ => cases kinds
  | bool flag =>
    cases other with
    | bool flag' =>
      rw [json, json, standard.bool, standard.bool] at same
      have flags : flag = flag' := by
        revert same
        cases flag <;> cases flag' <;> decide
      rw [flags]
    | _ => cases kinds
  | int number =>
    cases other with
    | int number' =>
      rw [json, json, standard.integer, standard.integer] at same
      exact congrArg int (Int64.toInt_inj.mp (Text.ofInt_injective same))
    | _ => cases kinds
  | float number =>
    cases other with
    | float number' =>
      exact congrArg float (standard.float_injective number number' (finite_of_normal normal)
        (finite_of_normal normal') same)
    | _ => cases kinds

theorem reads_json_word {value : Value} (kind : Kind) (shown : value.normal.kind = kind)
    (text : kind ≠ .text) (list : kind ≠ .list) : Text.Reads (json writer) SameInJson value := by
  intro other left right delimited delimited' same
  rw [← shown] at text list
  have kinds := normal_kind_eq_of_json standard delimited delimited' same
  have word := word_of_normal standard value.normal_normal text list
  have word' := word_of_normal standard other.normal_normal (kinds ▸ text) (kinds ▸ list)
  rw [← json_normal standard value, ← json_normal standard other] at same
  obtain ⟨texts, ends⟩ := word.append_inj word' delimited delimited' same
  exact ⟨eq_of_json_of_normal standard value.normal_normal other.normal_normal text list kinds texts,
    ends⟩

theorem reads_json_text (content : Text) : Text.Reads (json writer) SameInJson (text content) := by
  intro other left right delimited delimited' same
  have kinds := normal_kind_eq_of_json standard delimited delimited' same
  rw [← json_normal standard other] at same
  cases kept : other.normal with
  | text content' =>
    rw [kept, json, json] at same
    obtain ⟨contents, ends⟩ := standard.string_append_inj same
    exact ⟨contents ▸ kept.symm, ends⟩
  | _ =>
    rw [kept] at kinds
    cases kinds

/-- An array is read element by element. -/
theorem reads_json_list {items : List Value}
    (reads : ∀ item ∈ items, Text.Reads (json writer) SameInJson item) :
    Text.Reads (json writer) SameInJson (list items) := by
  intro other left right delimited delimited' same
  have kinds := normal_kind_eq_of_json standard delimited delimited' same
  rw [normal_list] at kinds
  rw [← json_normal standard other] at same
  cases kept : other.normal with
  | list others =>
    rw [kept, json_list, json_list, standard.array_append, standard.array_append] at same
    obtain ⟨pairs, ends⟩ := Text.forall₂_of_bracketed [] reads (exists_cons_json standard)
      (List.tail_eq_of_cons_eq same)
    have lists : items.map normal = others.map normal := by
      rwa [← List.forall₂_eq_eq_eq, List.forall₂_map_left_iff, List.forall₂_map_right_iff]
    refine ⟨?_, ends⟩
    rw [SameInJson, ← other.normal_normal, kept, normal_list, normal_list, lists]
  | _ =>
    rw [kept] at kinds
    cases kinds

theorem reads_json_blob (bytes : List UInt8) :
    Text.Reads (json writer) SameInJson (blob bytes) := by
  have reads : Text.Reads (json writer) SameInJson (ofList bytes) :=
    reads_json_list standard (List.forall_mem_map.mpr fun byte _ =>
      reads_json_word standard .int rfl (by decide) (by decide))
  intro other left right delimited delimited' same
  rw [json_blob] at same
  obtain ⟨alike, ends⟩ := reads delimited delimited' same
  exact ⟨(normal_ofList bytes).symm.trans alike, ends⟩

theorem reads_json (value : Value) : Text.Reads (json writer) SameInJson value := by
  induction value using inductionOnItems with
  | list items ih => exact reads_json_list standard ih
  | blob bytes => exact reads_json_blob standard bytes
  | text content => exact reads_json_text standard content
  | float number =>
    cases finite : number.isFinite with
    | true =>
      exact reads_json_word standard .float (congrArg kind (normal_of_finite finite)) (by decide)
        (by decide)
    | false =>
      exact reads_json_word standard .null (congrArg kind (normal_of_not_finite finite)) (by decide)
        (by decide)
  | null => exact reads_json_word standard .null rfl (by decide) (by decide)
  | bool flag => exact reads_json_word standard .bool rfl (by decide) (by decide)
  | int number => exact reads_json_word standard .int rfl (by decide) (by decide)

theorem json_eq_iff (value other : Value) :
    value.json writer = other.json writer ↔ value.normal = other.normal := by
  constructor
  · intro same
    have nothing : Text.Delimited [] := trivial
    exact (reads_json standard value nothing nothing (congrArg (· ++ []) same)).1
  · intro kept
    rw [← json_normal standard value, kept, json_normal standard]

end Reading

end Value

namespace Statement

theorem json_eq_iff {writer : JsonWriter} (standard : writer.Standard) (statement other : Statement) :
    statement.json writer = other.json writer ↔ statement.query = other.query ∧
      List.Forall₂ (fun left right : Value => left.normal = right.normal) statement.params
        other.params := by
  have lists : (Value.list statement.params).json writer = (Value.list other.params).json writer ↔
      List.Forall₂ (fun left right : Value => left.normal = right.normal) statement.params
        other.params := by
    rw [Value.json_eq_iff standard, Value.normal_list, Value.normal_list, Value.list.injEq,
      ← List.forall₂_eq_eq_eq, List.forall₂_map_left_iff, List.forall₂_map_right_iff]
  rw [← lists, Value.json_list, Value.json_list]
  constructor
  · intro same
    -- The keys are the same on both sides, so the queries stand at the same place.
    simp only [json, standard.object, List.map_cons, List.map_nil, List.intercalate_cons_cons,
      List.intercalate_singleton, List.append_assoc, List.cons_append, List.cons.injEq, true_and,
      List.append_right_inj] at same
    obtain ⟨queries, rest⟩ := standard.string_append_inj same
    simp only [List.nil_append, List.cons.injEq, true_and, List.append_right_inj,
      List.append_left_inj] at rest
    exact ⟨queries, rest⟩
  · rintro ⟨queries, params⟩
    rw [json, json, queries, params]

/-- JSON confuses two values exactly if they are the same once the floats that are not finite are null
and the blobs are lists of integers. It confuses two statements exactly if they have the same query and
as many parameters, and each of these is confused with the one in its place. -/
theorem json_eq_iff_normal_eq (writer : JsonWriter) (standard : writer.Standard) :
    (∀ value other : Value, value.json writer = other.json writer ↔ value.normal = other.normal) ∧
    ∀ statement other : Statement, statement.json writer = other.json writer ↔
      statement.query = other.query ∧
        List.Forall₂ (fun left right : Value => left.normal = right.normal) statement.params
          other.params :=
  ⟨Value.json_eq_iff standard, json_eq_iff standard⟩

/-- A compact text does not show a blob or an infinity, but it does show that `1.0` is no integer and
that `"null"` is a string. -/
theorem json_eq_iff_normal_eq_compact :
    let shown := Value.json .compact
    let statement (param : Value) : Statement := ⟨"k = ?".toList, [param]⟩
    let blob : Value := .list [.blob [1], .float ⟨0x7FF0000000000000⟩]
    let list : Value := .list [.list [.int 1], .null]
    JsonWriter.compact.Standard ∧
      shown blob = "[[1],null]".toList ∧ shown list = shown blob ∧
      (statement blob).json .compact = (statement list).json .compact ∧
      shown (.float ⟨0x3FF0000000000000⟩) ≠ shown (.int 1) ∧
      (statement (.text "null".toList)).json .compact ≠ (statement .null).json .compact := by
  intro shown statement blob list
  obtain ⟨values, statements⟩ := json_eq_iff_normal_eq .compact JsonWriter.compact_standard
  have alike : list.normal = blob.normal := rfl
  refine ⟨JsonWriter.compact_standard, rfl, (values list blob).mpr alike, ?_, ?_, ?_⟩
  · exact (statements _ _).mpr ⟨rfl, .cons alike.symm .nil⟩
  · intro same
    cases (values _ _).mp same
  · intro same
    cases ((statements _ _).mp same).2 with
    | cons same _ => cases same

end Statement

end PreparedCql
