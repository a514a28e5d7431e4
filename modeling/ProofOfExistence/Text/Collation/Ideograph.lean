import ProofOfExistence.Text.CodeRun
import ProofOfExistence.Text.Collation.Ideograph.Table

/-! # The order of ideographs

Ideographs are ordered as a dictionary of them files them: by radical, then by the strokes beside
the radical, with simplified radicals after the full ones.  Ideographs filed alike are ordered by
the blocks they are encoded in, and within a block by their code points.

Every block is in this order itself, so that counts are enough to say where an ideograph is filed.
The later extensions have a few landmarks only, between which they are filed in proportion to the
common block. -/

namespace ProofOfExistence.Collation

/-- Where an ideograph is filed. -/
structure Filing where
  /-- The number of the radical, from one to 214. -/
  radical : Nat
  /-- The strokes beside the radical. -/
  strokes : Nat
  /-- Whether the radical has its simplified form. -/
  simplified : Bool
deriving DecidableEq

namespace Filing

/-- The number of a filing: radicals count most, then strokes, then the form of the radical. -/
def rank (filing : Filing) : Nat :=
  (filing.radical * 64 + filing.strokes) * 2 + filing.simplified.toNat

/-- The filings under a radical, with the counts of their ideographs. -/
def listOfRow (radical : Nat) (simplified : Bool) (row : String) : List (Filing × Nat) :=
  (words row).zipIdx.map fun (count, strokes) =>
    (⟨radical, strokes, simplified⟩, count.toNat?.getD 0)

/-- Reads a table of counts. -/
def listOfTable (table : String) : List (Filing × Nat) :=
  ((table.splitOn ",").zipIdx 1).flatMap fun (row, radical) =>
    match row.splitOn "/" with
    | [full, simplified] => listOfRow radical false full ++ listOfRow radical true simplified
    | _ => listOfRow radical false row

/-- Reads one filing: a radical, a dot and strokes, and a slash for a simplified radical. -/
def ofText (text : String) : Filing :=
  let numbers := ((text.splitOn "/").headD "").splitOn "."
  let number (i : Nat) : Nat := ((numbers[i]?).bind String.toNat?).getD 0
  ⟨number 0, number 1, text.endsWith "/"⟩

/-- The runs of ideographs that are filed alike, from a code point on. -/
def runsFrom : Nat → List (Filing × Nat) → List (CodeRun × Filing)
  | _, [] => []
  | code, (filing, count) :: rest =>
    (⟨code, code + count - 1, 1⟩, filing) :: runsFrom (code + count) rest

end Filing

/-- The filings of the ideographs whose blocks are counted. -/
def filings : List (CodeRun × Filing) :=
  Filing.runsFrom 0x4e00 (Filing.listOfTable commonIdeographTable) ++
    Filing.runsFrom 0x3400 (Filing.listOfTable firstExtensionTable) ++
    Filing.runsFrom 0x20000 (Filing.listOfTable secondExtensionTable)

/-- The filings of the ideographs that do not stand where their blocks have them. -/
def strayFilings : List (Nat × Filing) :=
  (words strayIdeographTable).map fun entry =>
    match entry.splitOn ":" with
    | [code, filing] => (CodeRun.codeOfText code, Filing.ofText filing)
    | _ => (0, ⟨0, 0, false⟩)

/-- The blocks of ideographs, the common one first and those of compatibility last. -/
def ideographBlocks : List CodeRun :=
  CodeRun.listOfText
    "4e00-9fff 3400-4dbf 20000-2a6df 2a700-2b73f 2b740-2b81d 2b820-2cead 2ceb0-2ebe0
    30000-3134a 31350-323af 2ebf0-2ee5d 323b0-33479 fa0e-fa29"

/-- Whether a code point is an ideograph. -/
def isIdeograph (code : Nat) : Bool := ideographBlocks.any (·.contains code)

/-- The landmarks of the later extensions, in rising order. -/
def landmarks : List (Nat × Nat) :=
  (words landmarkTable).map fun entry =>
    match entry.splitOn ":" with
    | [code, common] => (CodeRun.codeOfText code, CodeRun.codeOfText common)
    | _ => (0, 0)

/-- The ideograph of the common block that stands for one of a later extension. -/
def counterpart? (code : Nat) : Option Nat :=
  (landmarks.zip (landmarks.drop 1)).findSome? fun ((first, common), (last, lastCommon)) =>
    if first ≤ code ∧ code < last then
      some (common + (code - first) * (lastCommon - common) / (last - first))
    else none

/-- Where an ideograph is filed by its place in its block. -/
def countedFiling? (code : Nat) : Option Filing :=
  (filings.find? (·.1.contains code)).map Prod.snd

/-- Where an ideograph is filed.  What no table knows comes after the last radical. -/
def filing (code : Nat) : Filing :=
  (((strayFilings.lookup code).or (countedFiling? code)).or
    ((counterpart? code).bind countedFiling?)).getD ⟨215, 0, false⟩

/-- The place of an ideograph among the ideographs. -/
def ideographPlace (code : Nat) : Nat :=
  let block := (ideographBlocks.findIdx? (·.contains code)).getD ideographBlocks.length
  ((filing code).rank * 16 + block) <<< 21 + code

end ProofOfExistence.Collation
