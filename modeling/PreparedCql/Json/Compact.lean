import PreparedCql.Binary64.Layout
import PreparedCql.Json.Writer

/-! A writer of compact JSON. -/

namespace PreparedCql

namespace Text

/-- The escape of a character by the four hexadecimal digits of its code point. -/
def pointEscape (character : Char) : Text :=
  ['\\', 'u', Nat.digitChar (character.toNat / 0x1000), Nat.digitChar (character.toNat / 0x100 % 16),
    Nat.digitChar (character.toNat / 0x10 % 16), Nat.digitChar (character.toNat % 16)]

/-- Only what cannot be raw is escaped, by its short escape if it has one. -/
def jsonCharacter (character : Char) : Text :=
  match character with
  | '"' => ['\\', '"']
  | '\\' => ['\\', '\\']
  | '\n' => ['\\', 'n']
  | '\r' => ['\\', 'r']
  | '\t' => ['\\', 't']
  | _ =>
      if character.toNat = 0x08 then ['\\', 'b']
      else if character.toNat = 0x0C then ['\\', 'f']
      else if character.toNat < 0x20 then pointEscape character
      else [character]

def jsonString (text : Text) : Text := '"' :: text.flatMap jsonCharacter ++ ['"']

example : jsonString "a\"\\/\n\x08\x1f\x7fé".toList = "\"a\\\"\\\\/\\n\\b\\u001f\x7fé\"".toList := by
  decide

end Text

namespace JsonWriter

/-- Numbers are plain from `1e-5` to below `1e16`, and their exponents always have a sign. -/
def floatLayout : Binary64.Layout where
  tie := .even
  leastPlain := -5
  leastScientific := 16
  plusSign := true
  notNumber := "null".toList
  infinity := "null".toList
  negativeInfinity := "null".toList

example : (⟨0x4341C37937E08000⟩ : Binary64).write floatLayout = "1e+16".toList := by decide +kernel
example : (⟨0x3EE4F8B588E368F1⟩ : Binary64).write floatLayout = "0.00001".toList := by
  decide +kernel
example : (⟨0x3EB0C6F7A0B5ED8D⟩ : Binary64).write floatLayout = "1e-6".toList := by decide +kernel
example : (⟨0x3E60000000000000⟩ : Binary64).write floatLayout = "2.9802322387695312e-8".toList := by
  decide +kernel

def compact : JsonWriter where
  null := "null".toList
  bool flag := (if flag then "true" else "false").toList
  integer := Text.ofInt
  float := Binary64.write floatLayout
  string := Text.jsonString
  array parts := '[' :: [','].intercalate parts ++ [']']
  object fields :=
    '\x7b' :: [','].intercalate
      (fields.map fun field => Text.jsonString field.1 ++ ':' :: field.2) ++ ['\x7d']

end JsonWriter

end PreparedCql
