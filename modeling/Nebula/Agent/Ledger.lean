import Nebula.ControlPlane.State

/-!
# The idempotency ledger

`ledger.py` and `api/_dispatch.py`: the agent remembers the answers it gave by
idempotency key and replays them, up to a bound on the number of entries.
-/

namespace Nebula.Agent

open Schema Store ControlPlane

structure LedgerEntry where
  idempotencyKey : Uuid
  operationKind : OperationKind
  targetId : Uuid
  /-- `response_json` with its `applied_generation`. -/
  answer : AgentAnswer
  deriving DecidableEq

structure Ledger where
  entries : List LedgerEntry
  maxEntries : Nat
  deriving DecidableEq

variable (ledger : Ledger)

def Ledger.lookup (idempotencyKey : Uuid) : Option LedgerEntry :=
  Store.lookup LedgerEntry.idempotencyKey idempotencyKey ledger.entries

def Ledger.record (entry : LedgerEntry) : Ledger :=
  let known := ledger.entries.any fun old => old.idempotencyKey == entry.idempotencyKey
  let written :=
    if known then
      updateWhere (fun old => old.idempotencyKey == entry.idempotencyKey) (fun _ => entry)
        ledger.entries
    else ledger.entries ++ [entry]
  { ledger with entries := written.drop (written.length - ledger.maxEntries) }

/-- `dispatch_ledgered` before the driver: the cached response, a conflict, or `none` to run it. -/
def dispatchLedgered (request : AgentRequest) : Option AgentAnswer :=
  match ledger.lookup request.idempotencyKey with
  | none => none
  | some cached =>
    if cached.operationKind ≠ request.operationKind ∨ cached.targetId ≠ request.targetId then
      some .rejected
    else some cached.answer

def ledgered : AgentAnswer → Bool
  | .applied _ | .failed _ => true
  | _ => false

def recordAnswer (request : AgentRequest) (answer : AgentAnswer) : Ledger :=
  if ledgered answer then
    ledger.record ⟨request.idempotencyKey, request.operationKind, request.targetId, answer⟩
  else ledger

inductive Outcome (Phase : Type) where
  | goesOn (phase : Phase)
  | answers (answer : AgentAnswer)

theorem mem_record {ledger : Ledger} {entry found : LedgerEntry}
    (member : found ∈ (ledger.record entry).entries) : found ∈ ledger.entries ∨ found = entry := by
  have written := List.mem_of_mem_drop member
  split at written
  · obtain ⟨old, oldMember, same⟩ := List.mem_map.mp written
    split at same
    · exact Or.inr same.symm
    · exact Or.inl (same ▸ oldMember)
  · simpa using written

theorem dispatchLedgered_applied {ledger : Ledger} {request : AgentRequest} {generation : Nat}
    (replayed : dispatchLedgered ledger request = some (.applied generation)) :
    ∃ entry ∈ ledger.entries, entry.idempotencyKey = request.idempotencyKey ∧
      entry.operationKind = request.operationKind ∧ entry.targetId = request.targetId ∧
      entry.answer = .applied generation := by
  unfold dispatchLedgered at replayed
  split at replayed
  · cases replayed
  rename_i cached found
  split at replayed
  · cases replayed
  rename_i same
  obtain ⟨member, key⟩ := lookup_mem found
  refine ⟨cached, member, key, ?_, ?_, by simpa using replayed⟩
  · by_contra other
    exact same (Or.inl other)
  · by_contra other
    exact same (Or.inr other)

end Nebula.Agent
