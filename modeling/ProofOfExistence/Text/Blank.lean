import ProofOfExistence.Text.Utf16

/-! # White space

The white space that is trimmed from settings and numerals: the ASCII blanks, the space separators
of Unicode, the two line and paragraph separators, and the byte order mark.  Each of them is a
single code unit, so a text is trimmed unit by unit. -/

namespace ProofOfExistence.Text

/-- The characters of white space. -/
def blanks : List Char :=
  ['\t', '\n', '\x0b', '\x0c', '\r', ' ', '\u00a0', '\u1680', '\u2000', '\u2001', '\u2002',
    '\u2003', '\u2004', '\u2005', '\u2006', '\u2007', '\u2008', '\u2009', '\u200a', '\u2028',
    '\u2029', '\u202f', '\u205f', '\u3000', '\ufeff']

/-- Whether a character is white space. -/
def isBlank (c : Char) : Bool := blanks.contains c

/-- Whether a code unit is a white space character. -/
def isBlankUnit (u : UInt16) : Bool := blanks.any fun c => Utf16.ofChar c = [u]

/-- Drop what is blank at both ends of a list. -/
def trimEnds {α : Type} (blank : α → Bool) (l : List α) : List α :=
  ((l.dropWhile blank).reverse.dropWhile blank).reverse

/-- Drop the white space at both ends of a list of characters. -/
def trimChars (cs : List Char) : List Char := trimEnds isBlank cs

/-- Drop the white space at both ends of a text. -/
def trim (text : Utf16) : Utf16 := ⟨trimEnds isBlankUnit text.units⟩

end ProofOfExistence.Text
