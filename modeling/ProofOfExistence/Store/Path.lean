/-! # Paths of store files

Two paths can lead to one file by different ways: a single dot and an empty part lead nowhere, and
two dots lead out of the directory before them.  `StorePath.ofText` reads a path without such
detours, and `StorePath.toText` writes it.  `StorePath.directoryOfText` cuts the last part off a
path and leaves the detours in it: whether a directory is there depends on the way taken. -/

namespace ProofOfExistence

/-- A path without detours. -/
structure StorePath where
  /-- Whether the path starts at the root. -/
  isAbsolute : Bool
  /-- The directories on the way; two dots stand at the beginning only. -/
  directories : List String
  /-- The name of the file. -/
  file : String
deriving DecidableEq

namespace StorePath

/-- Whether a part of a path leads nowhere. -/
def isIdle (part : String) : Bool := part = "" || part = "."

/-- The parts of a path with one more part. -/
def addPart (parts : List String) (part : String) : List String :=
  if isIdle part then parts
  else if part = ".." ∧ parts.getLast?.any (· ≠ "..") then parts.dropLast
  else parts ++ [part]

/-- The parts of a path, without detours. -/
def partsOfText (text : String) : List String := (text.splitOn "/").foldl addPart []

/-- Reads a path.  A file name ends at a null character. -/
def ofText (text : String) : StorePath :=
  let parts := partsOfText text
  let file := (parts.getLast?.getD "").toList.takeWhile (· ≠ '\x00')
  ⟨text.startsWith "/", parts.dropLast, String.ofList file⟩

/-- Writes parts of a path. -/
def textOfParts (isAbsolute : Bool) (parts : List String) : String :=
  (if isAbsolute then "/" else "") ++ "/".intercalate parts

/-- Writes a path. -/
def toText (p : StorePath) : String := textOfParts p.isAbsolute (p.directories ++ [p.file])

/-- The text of the path that leads to a name within a directory, the root being that directory.  A
slash at the end stays. -/
def textWithin (name : String) : String :=
  let text := textOfParts true (partsOfText name)
  if name.endsWith "/" && text ≠ "/" then text ++ "/" else text

/-- The directory of a path, detours and all: what stands before the last part that is not empty. -/
def directoryOfText (text : String) : String :=
  let dropSlashes (cs : List Char) := cs.dropWhile (· = '/')
  let backwards := dropSlashes ((dropSlashes text.toList.reverse).dropWhile (· ≠ '/'))
  if backwards.isEmpty then if text.startsWith "/" then "/" else "."
  else String.ofList backwards.reverse

/-- Whether a file name, with the endings that a store adds to it, is no longer than 255 bytes. -/
def hasShortName (p : StorePath) : Bool := p.file.utf8ByteSize + "-journal".utf8ByteSize ≤ 255

/-- Whether a path leads to something, given which files there are by their texts.  There are no
directories below the first one.  From a file no way leads on, not even to itself. -/
def isReachable (isFile : String → Bool) (text : String) : Bool :=
  let isAbsolute := text.startsWith "/"
  let step (reached : Option (List String × Bool)) (part : String) : Option (List String × Bool) :=
    match reached with
    | none | some (_, true) => none
    | some (parts, false) =>
      let parts := addPart parts part
      if isIdle part || part = ".." then some (parts, false)
      else if isFile (textOfParts isAbsolute parts) then some (parts, true)
      else none
  let ways := text.splitOn "/"
  ((if isAbsolute then ways.drop 1 else ways).foldl step (some ([], false))).isSome

end StorePath

end ProofOfExistence
