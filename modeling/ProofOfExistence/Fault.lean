import ProofOfExistence.Text.Hex
import ProofOfExistence.Value.Canonical
import ProofOfExistence.Violation

/-! # Faults

A fault ends a computation without a result.  Unlike the refusal of a call, which is an answer, it
is raised by a collaborator that cannot do its work or by an argument that no call may have, and it
undoes the transaction that it leaves.  Each cause has a constructor; `Fault.message` words them
all. -/

namespace ProofOfExistence

/-- What can end a computation without a result. -/
inductive Fault where
  /-- A time is no non-negative safe integer. -/
  | invalidTimestamp (time : Number)
  /-- A clock was set to a time before its own. -/
  | clockSetBack (time current : Number)
  /-- A clock reading is below an earlier one. -/
  | readingWentBack (time last : Number)
  /-- A length limit is no non-negative safe integer. -/
  | invalidProofLimit (limit : Number)
  /-- A text is not hexadecimal. -/
  | invalidHex (text : String)
  /-- A text is not base64. -/
  | invalidBase64
  /-- A private key does not have 32 bytes. -/
  | privateKeyLength
  /-- A value has no canonical text. -/
  | notCanonical (cause : CanonicalError)
  /-- A name is not that of a log level. -/
  | unknownLogLevel (name : String)
  /-- A configuration violates its schema. -/
  | invalidConfiguration (violations : List Violation)
  /-- A store was used after it was closed. -/
  | storeClosed
  /-- A store was to write while another one on its file has a transaction that has written. -/
  | storeLocked
  /-- A store was to write in a transaction that sees its file as it was before another store wrote
  to it. -/
  | storeOutdated
  /-- A store file was to be opened in a directory that does not exist. -/
  | missingDirectory
  /-- A store file was to be opened where there is none, as at a directory. -/
  | notAStoreFile
  /-- A claim without a time was to be stored durably. -/
  | missingTimestamp
  /-- A collaborator failed, with a message. -/
  | raised (message : String)
  /-- A collaborator failed with a bare value. -/
  | raisedValue (value : Value)
  /-- A value that has no text was to be put in words. -/
  | noPlainText

namespace Fault

/-- Whether a fault can be put in words: a bare value without a text cannot. -/
def hasMessage : Fault → Bool
  | raisedValue value => value.plainText?.isSome
  | _ => true

/-- The words for a value without a text. -/
def noTextMessage : String := "Cannot convert object to primitive value"

/-- The wording of a fault.  A bare value without a text gets the words for that. -/
def message : Fault → Utf16
  | invalidTimestamp t => .ofString s!"Invalid logical timestamp: {t}"
  | clockSetBack t current => .ofString s!"Clock cannot move backwards: {t} < {current}"
  | readingWentBack t last => .ofString s!"Logical clock went backwards: {t} < {last}"
  | invalidProofLimit limit =>
    .ofString s!"proofLimit must be a non-negative integer, got {limit}"
  | invalidHex text => ⟨(Utf16.ofString "Invalid hex string: ").units ++ (Hex.excerpt text).units⟩
  | invalidBase64 => .ofString "The text is not base64"
  | privateKeyLength => .ofString "Uint8Array expected"
  | notCanonical cause => .ofString cause.message
  | unknownLogLevel name => .ofString ("Unknown log level: " ++ name)
  | invalidConfiguration violations =>
    .ofString ("Invalid configuration: " ++ Violation.listText violations)
  | storeClosed => .ofString "The database connection is not open"
  | storeLocked | storeOutdated => .ofString "database is locked"
  | missingDirectory =>
    .ofString "Cannot open database because the directory does not exist"
  | notAStoreFile => .ofString "unable to open database file"
  | missingTimestamp => .ofString "NOT NULL constraint failed: claims.registered_at"
  | raised message => .ofString message
  | raisedValue value => .ofString (value.plainText?.getD noTextMessage)
  | noPlainText => .ofString noTextMessage

end Fault

end ProofOfExistence
