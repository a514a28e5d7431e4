import ProofOfExistence.Text.HexDigit

/-! # Runs of code points

Tables of characters are written compactly.  A `CodeRun` is the code points from one to another, or
every other one of them; `41-5a` is written for the first kind and `100~12e` for the second, and a
single code point stands for itself.  A `CodeMapping` says what each code point of a run stands for:
`ff21-ff3a:41` maps a run to the one that begins with `41`, and `fb01:66.69` maps one code point to
two.  Tables keep their entries in one text, with white space between them. -/

namespace ProofOfExistence

/-- The parts of a text between white space. -/
def words (text : String) : List String :=
  ((text.split Char.isWhitespace).toList.map (·.toString)).filter (!·.isEmpty)

/-- The code points from `first` to `last` in steps of `step`. -/
structure CodeRun where
  first : Nat
  last : Nat
  step : Nat
deriving DecidableEq

namespace CodeRun

/-- Whether a code point is in a run. -/
def contains (run : CodeRun) (code : Nat) : Bool :=
  run.first ≤ code && code ≤ run.last && (code - run.first) % run.step = 0

/-- The number of a code point within a run, from zero. -/
def index (run : CodeRun) (code : Nat) : Nat := (code - run.first) / run.step

/-- How many code points a run has. -/
def size (run : CodeRun) : Nat := run.index run.last + 1

/-- A code point in hexadecimal. -/
def codeOfText (text : String) : Nat :=
  text.toList.foldl (fun code c => code * 16 + (hexDigitValue? c).getD 0) 0

/-- Reads a run. -/
def ofText (text : String) : CodeRun :=
  match text.splitOn "-", text.splitOn "~" with
  | [first, last], _ => ⟨codeOfText first, codeOfText last, 1⟩
  | _, [first, last] => ⟨codeOfText first, codeOfText last, 2⟩
  | _, _ => ⟨codeOfText text, codeOfText text, 1⟩

/-- Reads runs with white space between them. -/
def listOfText (text : String) : List CodeRun := (words text).map ofText

end CodeRun

/-- What the code points of a run stand for.  The first one of `target` is that of the run's first
code point, and moves along with the run. -/
structure CodeMapping where
  run : CodeRun
  target : List Nat
deriving DecidableEq

namespace CodeMapping

/-- What a code point of the run stands for. -/
def apply (mapping : CodeMapping) (code : Nat) : List Nat :=
  mapping.target.modifyHead (· + (code - mapping.run.first))

/-- Reads an entry. -/
def ofText (text : String) : CodeMapping :=
  match text.splitOn ":" with
  | [run, target] => ⟨CodeRun.ofText run, (target.splitOn ".").map CodeRun.codeOfText⟩
  | _ => ⟨CodeRun.ofText text, []⟩

/-- Reads entries with white space between them. -/
def listOfText (text : String) : List CodeMapping := (words text).map ofText

/-- What a code point stands for by a list of entries, if one has it. -/
def find? (mappings : List CodeMapping) (code : Nat) : Option (List Nat) :=
  (mappings.find? (·.run.contains code)).map (·.apply code)

end CodeMapping

end ProofOfExistence
