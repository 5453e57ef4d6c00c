import Nebula.HashChain
import Nebula.JsonObject
import Nebula.Pruning.Request

/-!
# The audit export and its verification

`nebula_api/audit/chain.py`: `chain_lines` writes an event to a line, with the hash before it and
its own, and closes with the head and the count; `verify` reads such lines and recomputes every
link; `verify_extends` compares two exports.

SHA-256, of which only the length of its digests is used, `datetime.isoformat` and floating-point
numbers are the standard library's. `str` of a broken line's id, and of the closing line's `until`,
is left as the value it is taken of.
-/

namespace Nebula.Audit

open Schema Json
open Python (uuidText isSpace)

structure Library where
  decoder : Decoder
  sha256 : Text → Text
  sha256_length : ∀ text, (sha256 text).length = 64
  isoformat : Instant → Text

structure AuditLogEntry where
  id : Uuid
  actorKind : Text
  actorId : Option Uuid
  targetKind : Text
  targetId : Uuid
  eventCode : Text
  outcome : Text
  reasonCode : Option Text
  requestId : Option Uuid
  recordedAt : Instant
  deriving DecidableEq

def format : Text := "nebula-audit-chain/1".toList

def genesis : Text := List.replicate 64 '0'

def key (name : String) : Units :=
  asUnits name.toList

def text (content : Text) : Value :=
  .text (asUnits content)

def optional : Option Text → Value
  | none => .null
  | some content => text content

section

variable (library : Library)

def canonical (entry : AuditLogEntry) : Members :=
  dict [(key "id", text (uuidText entry.id)),
    (key "recorded_at", text (library.isoformat entry.recordedAt)),
    (key "actor_kind", text entry.actorKind),
    (key "actor_id", optional (entry.actorId.map uuidText)),
    (key "target_kind", text entry.targetKind),
    (key "target_id", text (uuidText entry.targetId)),
    (key "event_code", text entry.eventCode),
    (key "outcome", text entry.outcome),
    (key "reason_code", optional entry.reasonCode),
    (key "request_id", optional (entry.requestId.map uuidText))]

def link (prev : Text) (event : Members) : Text :=
  library.sha256 (prev ++ (Value.object event).dumps)

def record (prev digest : Text) (event : Members) : Members :=
  insertMember (key "hash", text digest) (insertMember (key "prev", text prev) event)

def trailer (count : Nat) (head : Text) (moment : Instant) : Members :=
  dict [(key "format", text format), (key "count", .int count), (key "head", text head),
    (key "until", text (library.isoformat moment))]

/-- `chain_lines`, without the newlines; `moment` is its `until`. -/
def chainLines (moment : Instant) : Text → Nat → List AuditLogEntry → List Text
  | prev, count, [] => [(Value.object (trailer library count prev moment)).dumps]
  | prev, count, entry :: rest =>
    let event := canonical library entry
    let digest := link library prev event
    (Value.object (record prev digest event)).dumps :: chainLines moment digest (count + 1) rest

def exportText (entries : List AuditLogEntry) (moment : Instant) : Text :=
  (chainLines library moment genesis 0 entries).flatMap fun line => line ++ ['\x0a']

end

def isBoundary (char : Char) : Bool :=
  decide (char.toNat ∈ [0x0A, 0x0B, 0x0C, 0x0D, 0x1C, 0x1D, 0x1E, 0x85, 0x2028, 0x2029])

def splitLines : Text → List Text
  | [] => []
  | '\x0d' :: '\x0a' :: rest => [] :: splitLines rest
  | char :: rest =>
    if isBoundary char then [] :: splitLines rest
    else
      match splitLines rest with
      | [] => [[char]]
      | line :: lines => (char :: line) :: lines

def notBlank (line : Text) : Bool :=
  line.any fun char => !isSpace char

inductive ChainError where
  /-- "line …: events after the closing line" -/
  | afterClosing (number : Nat)
  /-- "line …: not JSON"; or what `json.loads` raises of its own for too many digits or levels -/
  | notJson (number : Nat)
  /-- "line …: not an object" -/
  | notObject (number : Nat)
  /-- "line …: the chain breaks here (event …)" -/
  | breaks (number : Nat) (event : Option Value)
  /-- "no closing line: the export is cut short" -/
  | cutShort
  /-- "the closing line does not match the events" -/
  | mismatch
  /-- "the newer export does not contain the older one's … events unchanged" -/
  | notContained (count : Nat)

structure ChainSummary where
  count : Nat
  head : Text
  upTo : Option Value
  hashes : List Text

structure Progress where
  prev : Text
  hashes : List Text
  trailer : Option Members

def isText (expected : Text) : Option Value → Bool
  | some (.text content) => decide (content = asUnits expected)
  | _ => false

def eventOf (record : Members) : Members :=
  without (key "hash") (without (key "prev") record)

section

variable (library : Library)

def equalsCount (count : Nat) : Option Value → Bool
  | some (.int value) => decide (value = count)
  | some (.bool value) => decide (value.toNat = count)
  | some (.float number) => library.decoder.equals number count
  | _ => false

def Progress.line (progress : Progress) (number : Nat) (line : Text) :
    Except ChainError Progress :=
  if progress.trailer.isSome then .error (.afterClosing number)
  else
    match loads library.decoder line with
    | none => .error (.notJson number)
    | some (.object record) =>
      if (get (key "format") record).isSome then .ok { progress with trailer := some record }
      else
        let digest := link library progress.prev (eventOf record)
        if isText progress.prev (get (key "prev") record) &&
            isText digest (get (key "hash") record) then
          .ok { progress with prev := digest, hashes := progress.hashes ++ [digest] }
        else .error (.breaks number (get (key "id") (eventOf record)))
    | some _ => .error (.notObject number)

def verifyLines : Nat → Progress → List Text → Except ChainError Progress
  | _, progress, [] => .ok progress
  | number, progress, line :: rest =>
    (progress.line library number line).bind fun next => verifyLines (number + 1) next rest

def Progress.close (progress : Progress) : Except ChainError ChainSummary :=
  match progress.trailer with
  | none => .error .cutShort
  | some trailer =>
    if isText format (get (key "format") trailer) then
      if equalsCount library progress.hashes.length (get (key "count") trailer) &&
          isText progress.prev (get (key "head") trailer) then
        .ok ⟨progress.hashes.length, progress.prev, get (key "until") trailer, progress.hashes⟩
      else .error .mismatch
    else .error .cutShort

def verify (lines : List Text) : Except ChainError ChainSummary :=
  (verifyLines library 1 ⟨genesis, [], none⟩ (lines.filter notBlank)).bind
    fun progress => progress.close library

def verifyExtends (older newer : List Text) : Except ChainError ChainSummary :=
  (verify library older).bind fun old =>
    (verify library newer).bind fun new =>
      if 0 < old.count ∧ (new.count < old.count ∨ new.hashes[old.count - 1]? ≠ some old.head) then
        .error (.notContained old.count)
      else .ok new

end

end Nebula.Audit
