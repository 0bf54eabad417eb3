import Parley.Text.GraphemeExtend
import Parley.Text.Printable

/-!
# Escaped characters

Characters that cannot be seen by themselves are written as escapes, and so are quotes and the backslash.
-/

namespace Parley
namespace Text

/-- The escape of a character by its code point. -/
def codeEscape (c : Char) : List Char := '\\' :: 'u' :: '\x7b' :: (Nat.toDigits 16 c.toNat ++ ['\x7d'])

/-- A character as it is written between the given kinds of quotes. -/
def escape (quotes : List Char) (c : Char) : List Char :=
  if c = '\x00' then ['\\', '0']
  else if c = '\t' then ['\\', 't']
  else if c = '\n' then ['\\', 'n']
  else if c = '\r' then ['\\', 'r']
  else if c = '\\' || quotes.contains c then ['\\', c]
  else if isGraphemeExtend c || isUnprintable c then codeEscape c
  else [c]

/-- A text in double quotes, with single quotes as they are. -/
def quoted (text : String) : String :=
  String.ofList ('"' :: (text.toList.flatMap (escape ['"']) ++ ['"']))

end Text
end Parley
