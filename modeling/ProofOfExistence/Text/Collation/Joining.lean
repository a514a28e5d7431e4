import ProofOfExistence.Text.Decomposition

/-! # Letters written with several code points

Some sequences of code points are one letter of their own, not a letter with an accent.  And in some
scripts a vowel is written before the consonant that it is read after. -/

namespace ProofOfExistence.Collation

/-- Sequences of code points and the letters they stand for, long ones first. -/
def joinedTable : String :=
  "cc6.cc2.cd5=ccb dd9.dcf.dca=ddd fb2.f71.f72=fb2.f73 fb2.f71.f74=fb2.f75 fb2.f71.f80=f77
  fb3.f71.f72=fb3.f73 fb3.f71.f74=fb3.f75 fb3.f71.f80=f79 1611e.1611e.1611f=16126
  1611e.1611e.16120=16128 1611e.16129.1611f=16127 16d63.16d67.16d67=16d6a 4c.b7=13f 6c.b7=140
  418.306=419 438.306=439 627.653=622 627.654=623 627.655=625 648.654=624 64a.654=626 9c7.9be=9cb
  9c7.9d7=9cc b47.b3e=b4b b47.b56=b48 b47.b57=b4c b92.bd7=b94 bc6.bbe=bca bc6.bd7=bcc bc7.bbe=bcb
  c46.c56=c48 cbf.cd5=cc0 cc6.cc2=cca cc6.cd5=cc7 cc6.cd6=cc8 d46.d3e=d4a d46.d57=d4c d47.d3e=d4b
  dd9.dca=dda dd9.dcf=ddc dd9.ddf=dde e4d.e32=e33 ecd.eb2=eb3 f71.f72=f73 f71.f74=f75 f71.f80=f81
  fb2.f71=fb2.f71 fb2.f80=f76 fb3.f71=fb3.f71 fb3.f80=f78 1025.102e=1026 1b05.1b35=1b06
  1b07.1b35=1b08 1b09.1b35=1b0a 1b0b.1b35=1b0c 1b0d.1b35=1b0e 1b11.1b35=1b12 1b3a.1b35=1b3b
  1b3c.1b35=1b3d 1b3e.1b35=1b40 1b3f.1b35=1b41 1b42.1b35=1b43 105d2.307=105c9 105da.307=105e4
  11131.11127=1112e 11132.11127=1112f 11347.1133e=1134b 11347.11357=1134c 11382.113c9=11383
  11384.113bb=11385 1138b.113c2=1138e 11390.113c9=11391 113c2.113b8=113c7 113c2.113c2=113c5
  113c2.113c9=113c8 114b9.114b0=114bc 114b9.114ba=114bb 114b9.114bd=114be 115b8.115af=115ba
  115b9.115af=115bb 11935.11930=11938 1611e.1611e=16121 1611e.1611f=16123 1611e.16120=16125
  1611e.16129=16122 16129.1611f=16124 16d63.16d67=16d69 16d67.16d67=16d68"

/-- The code points of a sequence, written with dots between them. -/
def sequenceOfText (text : String) : List Nat := (text.splitOn ".").map CodeRun.codeOfText

/-- The sequences and the letters they stand for. -/
def joined : List (List Nat × List Nat) :=
  (words joinedTable).map fun entry =>
    match entry.splitOn "=" with
    | [parts, letters] => (sequenceOfText parts, sequenceOfText letters)
    | _ => ([], [])

/-- The letters that a sequence stands for, if it is listed. -/
def joined? (parts : List Nat) : Option (List Nat) := joined.lookup parts

/-- The vowels written before their consonants, and those consonants, script by script. -/
def leadingVowelTable : List (String × String) := [
  ("e40-e44", "e01-e2e"),
  ("ec0-ec4", "e81-e82 e84 e86-e8a e8c-ea3 ea5 ea7-eae edc-edf"),
  ("19b5-19b7 19ba", "1980-19ab"),
  ("aab5-aab6 aab9 aabb-aabc", "aa80-aaaf")]

/-- The leading vowels of each script and its consonants, as runs. -/
def leadingVowels : List (List CodeRun × List CodeRun) :=
  leadingVowelTable.map fun (vowels, consonants) =>
    (CodeRun.listOfText vowels, CodeRun.listOfText consonants)

/-- Whether a code point is a vowel written before the consonant that comes next. -/
def leads (vowel consonant : Nat) : Bool :=
  leadingVowels.any fun (vowels, consonants) =>
    vowels.any (·.contains vowel) && consonants.any (·.contains consonant)

/-- The longest listed sequence at the beginning, or else the first code point alone. -/
def joinedPrefix (codes : List Nat) : List Nat :=
  match joined.find? fun (parts, _) => !parts.isEmpty && parts.isPrefixOf codes with
  | some (parts, _) => parts
  | none => codes.take 1

/-- Lengthens a sequence by the marks after it, as long as the longer sequences are listed.  Marks
that do not fit are skipped, and a mark fits only if its class is above those of the skipped ones.
The answer is the sequence and what is left of the code points. -/
def extend (parts skipped : List Nat) : List Nat → List Nat × List Nat
  | [] => (parts, skipped)
  | mark :: rest =>
    let cls := Decomposition.markClass mark
    if cls = 0 then (parts, skipped ++ mark :: rest)
    else if skipped.all (Decomposition.markClass · < cls) && (joined? (parts ++ [mark])).isSome then
      extend (parts ++ [mark]) skipped rest
    else extend parts (skipped ++ [mark]) rest

/-- A sequence takes its marks from the code points after it, so that no more of them are left. -/
theorem length_extend_le (parts skipped rest : List Nat) :
    (extend parts skipped rest).2.length ≤ skipped.length + rest.length := by
  induction rest generalizing parts skipped with
  | nil => simp [extend]
  | cons mark rest ih =>
    simp only [extend]
    split
    · simp
    · split
      · exact Nat.le_trans (ih _ _) (by simp)
      · exact Nat.le_trans (ih _ _) (by simp; omega)

/-- Puts the letters of sequences in their places, and consonants before their leading vowels. -/
def join : List Nat → List Nat
  | [] => []
  | code :: rest =>
    let parts := joinedPrefix (code :: rest)
    let sequence := extend parts [] (rest.drop (parts.length - 1))
    match joined? sequence.1 with
    | some letters => letters ++ join sequence.2
    | none =>
      if (rest.head?.map (leads code)).getD false then rest.take 1 ++ code :: join (rest.drop 1)
      else code :: join rest
termination_by codes => codes.length
decreasing_by
  · refine Nat.lt_of_le_of_lt (length_extend_le ..) ?_
    simp only [List.length_drop, List.length_cons, List.length_nil]; omega
  · simp only [List.length_drop, List.length_cons]; omega
  · simp only [List.length_cons]; omega

end ProofOfExistence.Collation
