import PreparedCql.Json.Compact
import PreparedCql.Proofs.Delimited
import PreparedCql.Proofs.Numerals

/-! What is assumed of a JSON writer: what the standard says of compact texts, and of floats only what
any faithful notation has. How a number is laid out and which escape a character gets is left to the
writer. The compact writer is one of those that keep to the standard. -/

namespace PreparedCql

namespace Text

/-- The characters of a string that may be written as a backslash and one more character. -/
def shortEscapes : List (Char × Char) :=
  [('"', '"'), ('\\', '\\'), ('/', '/'), ('\x08', 'b'), ('\x0c', 'f'), ('\n', 'n'), ('\r', 'r'),
    ('\t', 't')]

/-- How one character may be written in a string; none is escaped by a pair of surrogates. -/
inductive JsonCharacter : Char → Text → Prop where
  | raw {character : Char} (visible : 0x20 ≤ character.toNat) (quote : character ≠ '"')
      (slash : character ≠ '\\') : JsonCharacter character [character]
  | short {character letter : Char} (escape : (character, letter) ∈ shortEscapes) :
      JsonCharacter character ['\\', letter]
  | point {character : Char} (small : character.toNat < 0x10000) :
      JsonCharacter character (pointEscape character)

/-- How a text may be written between the quotes of a string. -/
inductive JsonCharacters : Text → Text → Prop where
  | nil : JsonCharacters [] []
  | cons {character : Char} {text written rest : Text} (head : JsonCharacter character written)
      (tail : JsonCharacters text rest) : JsonCharacters (character :: text) (written ++ rest)

theorem jsonCharacter_written (character : Char) :
    JsonCharacter character (jsonCharacter character) := by
  unfold jsonCharacter
  split
  next => exact .short (by decide)
  next => exact .short (by decide)
  next => exact .short (by decide)
  next => exact .short (by decide)
  next => exact .short (by decide)
  next quote slash _ _ _ =>
    split
    next backspace =>
      obtain rfl : character = '\x08' := Char.toNat_inj.mp backspace
      exact .short (by decide)
    next =>
      split
      next feed =>
        obtain rfl : character = '\x0c' := Char.toNat_inj.mp feed
        exact .short (by decide)
      next =>
        split
        next control => exact .point (by omega)
        next visible => exact .raw (by omega) quote slash

theorem jsonCharacters_flatMap (text : Text) : JsonCharacters text (text.flatMap jsonCharacter) := by
  induction text with
  | nil => exact .nil
  | cons character text ih => exact .cons (jsonCharacter_written character) ih

/-- What a number may be written with besides digits. -/
def numberMarks : List Char := ['E', '+', '-', '.', 'e']

def Numeric (text : Text) : Prop :=
  ∀ character ∈ text, character.isDigit = true ∨ character ∈ numberMarks

theorem Numeric.word {text : Text} (numeric : text.Numeric) : text.Word := by
  have marks : Word numberMarks := by decide
  intro character member
  rcases numeric character member with digit | mark
  · exact not_mem_breaks_of_isDigit digit
  · exact marks character mark

/-- A number starts with none of the marks that stand around values. -/
theorem Numeric.exists_cons {text : Text} (numeric : text.Numeric) (nonempty : text ≠ []) :
    ∃ first rest, text = first :: rest ∧ first ≠ ']' := by
  obtain ⟨first, rest, rfl⟩ := List.exists_cons_of_ne_nil nonempty
  refine ⟨first, rest, rfl, ?_⟩
  rintro rfl
  exact numeric.word ']' List.mem_cons_self (by decide)

theorem numeric_ofInt (number : Int) : (ofInt number).Numeric := by
  intro character member
  rcases mem_ofInt member with digit | rfl
  · exact .inl digit
  · exact .inr (by decide)

end Text

namespace JsonWriter

/-- The promises of a writer of compact texts. Floats that are not finite have no number and are null;
the others are numbers that differ from each other, and none of them looks like an integer. -/
structure Standard (writer : JsonWriter) : Prop where
  null : writer.null = "null".toList
  bool : ∀ flag, writer.bool flag = (if flag then "true" else "false").toList
  integer : ∀ number, writer.integer number = Text.ofInt number
  float_of_not_finite : ∀ number, number.isFinite = false → writer.float number = "null".toList
  numeric_float : ∀ number, number.isFinite = true → (writer.float number).Numeric
  point_or_exponent_mem_float : ∀ number, number.isFinite = true →
    '.' ∈ writer.float number ∨ 'e' ∈ writer.float number
  float_injective : ∀ left right, left.isFinite = true → right.isFinite = true →
    writer.float left = writer.float right → left = right
  string : ∀ text, ∃ written, Text.JsonCharacters text written ∧
    writer.string text = '"' :: written ++ ['"']
  array : ∀ parts, writer.array parts = '[' :: [','].intercalate parts ++ [']']
  object : ∀ fields, writer.object fields =
    '\x7b' :: [','].intercalate (fields.map fun field => writer.string field.1 ++ ':' :: field.2) ++
      ['\x7d']

theorem write_of_not_finite {number : Binary64} (infinite : number.isFinite = false) :
    number.write floatLayout = "null".toList := by
  rcases number.finite_or_infinite_or_nan with finite | bounded | nan
  · cases finite.symm.trans infinite
  · rw [Binary64.write_of_infinite floatLayout bounded]
    cases number.isNegative <;> rfl
  · exact Binary64.write_of_nan floatLayout nan

theorem numeric_write {number : Binary64} (finite : number.isFinite = true) :
    (number.write floatLayout).Numeric := by
  intro character member
  rcases Binary64.mem_write_of_finite finite member with digit | mark | ⟨-, rfl⟩
  · exact .inl digit
  · exact .inr (List.mem_cons_of_mem _ (List.mem_cons_of_mem _ mark))
  · exact .inr (List.mem_cons_of_mem _ List.mem_cons_self)

theorem compact_standard : compact.Standard where
  null := rfl
  bool _ := rfl
  integer _ := rfl
  float_of_not_finite _ := write_of_not_finite
  numeric_float _ := numeric_write
  point_or_exponent_mem_float number := number.point_or_exponent_mem_write floatLayout
  float_injective _ _ := Binary64.write_injective
  string text := ⟨_, Text.jsonCharacters_flatMap text, rfl⟩
  array _ := rfl
  object _ := rfl

end JsonWriter

end PreparedCql
