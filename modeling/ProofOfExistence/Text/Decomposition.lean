import ProofOfExistence.Text.CodeRun
import ProofOfExistence.Text.Decomposition.MarkClass
import ProofOfExistence.Text.Decomposition.Table

/-! # Canonical decomposition

A letter with accents can be written in several ways: as one code point, or as a letter and marks,
in any order of the marks that do not touch each other.  `Decomposition.decompose` brings them all
to one: letters and marks apart, and the marks after a letter in rising order of their classes. -/

namespace ProofOfExistence.Decomposition

/-- The table with its entries read. -/
def entries : List (List Nat × List CodeMapping) :=
  table.map fun (marks, text) => (marks, CodeMapping.listOfText text)

/-- The parts of a syllable of Hangul: the consonant before its vowel, the vowel, and the consonant
after it, if there is one. -/
def syllableParts (code : Nat) : List Nat :=
  let n := code - 0xac00
  let parts := [0x1100 + n / 588, 0x1161 + n / 28 % 21]
  if n % 28 = 0 then parts else parts ++ [0x11a7 + n % 28]

/-- The full decomposition of a code point. -/
def parts (code : Nat) : List Nat :=
  if 0xac00 ≤ code ∧ code < 0xd7a4 then syllableParts code
  else
    match entries.findSome? fun (marks, mappings) =>
        (CodeMapping.find? mappings code).map (· ++ marks) with
    | some codes => codes
    | none => [code]

/-- Puts a code point before others whose marks are in order, past marks of lower classes. -/
def insertMark (code : Nat) : List Nat → List Nat
  | [] => [code]
  | mark :: rest =>
    if 0 < markClass mark ∧ markClass mark < markClass code then mark :: insertMark code rest
    else code :: mark :: rest

/-- The canonical decomposition of code points. -/
def decompose (codes : List Nat) : List Nat := (codes.flatMap parts).foldr insertMark []

end ProofOfExistence.Decomposition
