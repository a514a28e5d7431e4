import ProofOfExistence.Text.HexDigit
import ProofOfExistence.Text.Utf16

/-! # Quoted text

The quoted form of a text stands between double quotes.  The quote and the backslash are escaped
with a backslash, five control characters by a letter, every other unit below U+0020 and every lone
surrogate by `\u` and four lowercase hexadecimal digits; all other characters stand for
themselves. -/

namespace ProofOfExistence

/-- The escape of a code unit by its four hexadecimal digits. -/
def unitEscape (u : Nat) : List Char :=
  ['\\', 'u', hexDigit (u / 4096 % 16), hexDigit (u / 256 % 16), hexDigit (u / 16 % 16),
    hexDigit (u % 16)]

/-- Join pieces of text by commas. -/
def commaJoined : List (List Char) → List Char
  | [] => []
  | [t] => t
  | t :: rest => t ++ ',' :: commaJoined rest

namespace Utf16

/-- The quoted form of one item. -/
def quotedItem : Item → List Char
  | .lone u => unitEscape u.toNat
  | .char c =>
    if c = '"' then ['\\', '"']
    else if c = '\\' then ['\\', '\\']
    else if c = '\x08' then ['\\', 'b']
    else if c = '\t' then ['\\', 't']
    else if c = '\n' then ['\\', 'n']
    else if c = '\x0c' then ['\\', 'f']
    else if c = '\r' then ['\\', 'r']
    else if c.toNat < 0x20 then unitEscape c.toNat
    else [c]

/-- The quoted form of a text. -/
def quoted (t : Utf16) : List Char := '"' :: (t.items.flatMap quotedItem ++ ['"'])

end Utf16

end ProofOfExistence
