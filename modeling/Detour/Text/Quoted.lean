import Detour.Text.Hex
import Detour.Text.Plain

/-!
# Quoted text

Names are shown to a reader between double quotes, with every character that is not plain written
as an escape: a backslash and one letter for the common ones, the code point in hexadecimal for all
others.
-/

namespace Detour.Text

/-- The opening brace of a code point escape. -/
def openingBrace : Char := '\x7b'

/-- The closing brace of a code point escape. -/
def closingBrace : Char := '\x7d'

/-- A character as it stands between the quotes. -/
def quotedChar (c : Char) : List Char :=
  if c = '"' then ['\\', '"']
  else if c = '\\' then ['\\', '\\']
  else if c = '\n' then ['\\', 'n']
  else if c = '\r' then ['\\', 'r']
  else if c = '\t' then ['\\', 't']
  else if c = '\x00' then ['\\', '0']
  else if isPlain c then [c]
  else ['\\', 'u', openingBrace] ++ Hex.minimalDigits c.toNat ++ [closingBrace]

def quoted (text : String) : String :=
  String.ofList (['"'] ++ text.toList.flatMap quotedChar ++ ['"'])

/-- Texts in quotes between square brackets, with commas between them. -/
def quotedList (texts : List String) : String :=
  "[" ++ ", ".intercalate (texts.map quoted) ++ "]"

end Detour.Text
