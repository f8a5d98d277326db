import PreparedCql.Text.Printable

/-! The inspection form, in which a value shows its constructors and fields. Strings are quoted
and their hidden characters escaped, lists stand in brackets and records name their fields. -/

namespace PreparedCql

class Inspect (α : Type) where
  inspect : α → Text

export Inspect (inspect)

namespace Inspect

/-- How one character of an inspected string is written. What has no short escape and is hidden is
written by its code point. -/
def character (character : Char) : Text :=
  match character with
  | '"' => ['\\', '"']
  | '\\' => ['\\', '\\']
  | '\n' => ['\\', 'n']
  | '\r' => ['\\', 'r']
  | '\t' => ['\\', 't']
  | _ =>
      if character.toNat = 0 then ['\\', '0']
      else if Text.isHidden character then
        '\\' :: 'u' :: '\x7b' :: (Text.hex character.toNat ++ ['\x7d'])
      else [character]

def applied (name : String) (argument : Text) : Text :=
  name.toList ++ '(' :: argument ++ [')']

def bracketed (parts : List Text) : Text :=
  '[' :: ", ".toList.intercalate parts ++ [']']

def record (name : String) (fields : List (String × Text)) : Text :=
  name.toList ++ " \x7b ".toList ++
    ", ".toList.intercalate (fields.map fun (field, shown) => field.toList ++ ": ".toList ++ shown) ++
    " \x7d".toList

instance : Inspect Text where
  inspect text := '"' :: text.flatMap character ++ ['"']

example : inspect "é\u00a0\u0301\u3000\u200b😀".toList =
    "\"é\\u\x7ba0\x7d\\u\x7b301\x7d\\u\x7b3000\x7d\\u\x7b200b\x7d😀\"".toList := by
  decide +kernel

instance : Inspect Bool where
  inspect flag := (if flag then "true" else "false").toList

instance : Inspect Nat where
  inspect := Text.ofNat

instance : Inspect UInt8 where
  inspect byte := Text.ofNat byte.toNat

instance : Inspect Int64 where
  inspect number := Text.ofInt number.toInt

instance {α : Type} [Inspect α] : Inspect (Option α) where
  inspect
    | none => "None".toList
    | some value => applied "Some" (inspect value)

instance {α : Type} [Inspect α] : Inspect (List α) where
  inspect items := bracketed (items.map inspect)

end Inspect

end PreparedCql
