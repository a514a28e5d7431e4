import ProofOfExistence.Configuration
import ProofOfExistence.Store.File
import ProofOfExistence.Store.Path

/-! # Store files

A durable store lives in a file, and several stores can be open on one file.

Files lie in one directory without subdirectories, or in those above it.  One that is opened for the
first time is empty; a path that leads through another directory cannot be opened.  A store without
a path, or with the private one, has a file of its own that nobody else can open. -/

namespace ProofOfExistence

/-- Where a store is: the number of its file and its own number on that file. -/
structure StorePlace where
  file : Nat
  store : Nat

/-- All files, and which of them can be opened by name. -/
structure StoreFiles where
  files : List StoreFile
  byName : Table String Nat

namespace StoreFiles

/-- No files. -/
def empty : StoreFiles := ⟨[], .empty⟩

instance : Inhabited StoreFiles := ⟨empty⟩

/-- Open a new file, which gets the next number. -/
def openNew (d : StoreFiles) : StorePlace × StoreFiles :=
  (⟨d.files.length, 0⟩, { d with files := d.files ++ [StoreFile.empty.addStore] })

/-- Why a path cannot be opened, if it cannot: its directory is missing, or it leads to no file, as
when it ends in a directory, goes on after a file, or has too long a name. -/
def obstacle? (d : StoreFiles) (path : String) : Option Fault :=
  let isFile name := (d.byName.get? name).isSome
  let target := StorePath.ofText path
  if !StorePath.isReachable isFile (StorePath.directoryOfText path) then some .missingDirectory
  else if target.file = "" || target.file = ".." || target.directories.any (· ≠ "..") ||
      !target.hasShortName then some .notAStoreFile
  else none

/-- Open a store on the file of a path.  White space around the path counts for nothing, and in the
name of a file a surrogate without its partner is replaced. -/
def openStore (d : StoreFiles) (path : Utf16) : Except Fault (StorePlace × StoreFiles) :=
  let path := Text.trim path
  if path = "" ∨ path = Configuration.privatePath then .ok d.openNew
  else
    let name := (StorePath.ofText path.toString).toText
    match d.obstacle? path.toString, d.byName.get? name with
    | some fault, _ => .error fault
    | none, some i =>
      let f := d.files[i]?.getD default
      .ok (⟨i, f.stores.length⟩, { d with files := d.files.set i f.addStore })
    | none, none =>
      let (place, d) := d.openNew
      .ok (place, { d with byName := d.byName.insert name place.file })

variable {σ : Type}

/-- The place of the `i`-th file. -/
def fileCell (files : Cell σ StoreFiles) (i : Nat) : Cell σ StoreFile where
  get w := (files.get w).files[i]?.getD default
  set f w := let d := files.get w; files.set { d with files := d.files.set i f } w

/-- The place of a store. -/
def storeCell (files : Cell σ StoreFiles) (p : StorePlace) : Cell σ SavepointStore :=
  StoreFile.storeCell (fileCell files p.file) p.store

/-- The claim store at a place. -/
def claimStore (files : Cell σ StoreFiles) (p : StorePlace) : ClaimStore σ :=
  StoreFile.claimStore (fileCell files p.file) p.store

/-- The number of claims in the store at a place, none when it is closed. -/
def count? (files : Cell σ StoreFiles) (p : StorePlace) : Run σ (Option Nat) :=
  StoreFile.count? (fileCell files p.file) p.store

end StoreFiles

end ProofOfExistence
