import FieldNorm.Text.Extending
import FieldNorm.Text.Unprintable

/-!
Texts in double quotes for messages and logs. A character that would end the text, break the
line or not be seen stands as an escape.
-/

namespace FieldNorm.Text

def hexDigits (n : Nat) : List Char := Nat.toDigits 16 n

/-- Whether a quoted text shows the character itself. -/
def isShown (c : Char) : Bool :=
  (0x20 ≤ c.toNat && c.toNat < 0x7f) || !(unprintable.has c || extending.has c)

/-- One character of a quoted text. -/
def quotedChar (c : Char) : List Char :=
  if c = '\x00' then ['\\', '0']
  else if c = '\t' then ['\\', 't']
  else if c = '\r' then ['\\', 'r']
  else if c = '\n' then ['\\', 'n']
  else if c = '"' then ['\\', '"']
  else if c = '\\' then ['\\', '\\']
  else if isShown c then [c]
  else '\\' :: 'u' :: '\x7b' :: hexDigits c.toNat ++ ['\x7d']

/-- The text in double quotes. -/
def quoted (s : String) : String :=
  String.ofList ('"' :: s.toList.flatMap quotedChar ++ ['"'])

/-- A list of texts, each in double quotes. -/
def quotedList (texts : List String) : String :=
  "[" ++ ", ".intercalate (texts.map quoted) ++ "]"

end FieldNorm.Text
