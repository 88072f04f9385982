import Custody.Sha2.Sha256

/-!
# The audit chain

A running digest over payloads. The chain starts at the digest of a fixed word,
and each payload is bonded to the head before it, so two chains with one head
come from the same payloads in the same order unless two byte strings share a
digest.
-/

namespace Custody.AuditChain

/-- The head after a payload: the digest text of the old head followed by the payload. -/
def bond (head payload : Bytes) : Bytes := sha256Hex (head ++ payload)

/-- The head before any payload. -/
def anchor : Bytes := sha256Hex (utf8 "GENESIS")

/-- The heads after each of the payloads. -/
def heads (start : Bytes) : List Bytes → List Bytes
  | [] => []
  | payload :: rest => bond start payload :: heads (bond start payload) rest

/-- The head after all payloads. -/
def head (payloads : List Bytes) : Bytes := payloads.foldl bond anchor

end Custody.AuditChain
