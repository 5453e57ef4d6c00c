import Nebula.ControlPlane.OperationSteps
import Nebula.ControlPlane.TaskSteps

/-!
# Agent requests and their operation rows

The agent remembers an answer under the idempotency key of its request, so a key
has to stand for one operation: its kind, its target and its generation. A
service operation inserts the row it sends under. A repair sends under whatever
operation of the row is still running.
-/

namespace Nebula.Lifecycle

open Schema Runs ControlPlane

structure SameOperation (old new : Operation) : Prop where
  idempotencyKey : new.idempotencyKey = old.idempotencyKey
  operationKind : new.operationKind = old.operationKind
  targetKind : new.targetKind = old.targetKind
  targetId : new.targetId = old.targetId
  desiredGeneration : new.desiredGeneration = old.desiredGeneration

/-- No operation row is deleted, and none is turned into another operation. -/
def KeepsOperations (before after : Tables) : Prop :=
  ∀ operation ∈ before.operations, ∃ kept ∈ after.operations, SameOperation operation kept

theorem operationChange_same {state : State} {event : Event} {old new : Operation}
    (change : OperationChange state event old new) : SameOperation old new := by
  cases change <;> exact ⟨rfl, rfl, rfl, rfl, rfl⟩

theorem step_keepsOperations {state next : State} {event : Event}
    (taken : step state event = some next) : KeepsOperations state.tables next.tables := by
  obtain ⟨change, added, operations, changes, _⟩ := step_operations taken
  intro operation member
  refine ⟨change operation, ?_, operationChange_same (changes operation member)⟩
  rw [operations]
  exact List.mem_append_left added (List.mem_map_of_mem member)

def RequestMatches (tables : Tables) (request : AgentRequest) : Prop :=
  ∃ operation ∈ tables.operations,
    operation.idempotencyKey = request.idempotencyKey ∧
    operation.operationKind = request.operationKind ∧
    operation.targetKind = request.runtime.kind ∧
    operation.targetId = request.targetId ∧
    operation.desiredGeneration = request.desiredGeneration
  deriving Decidable

def CallMatches (tables : Tables) : AgentCall → Prop
  | .operate request => RequestMatches tables request
  | .reconcile _ _ _ _ => True

instance (tables : Tables) (call : AgentCall) : Decidable (CallMatches tables call) := by
  cases call <;> unfold CallMatches <;> infer_instance

def RequestsMatch (state : State) : Prop :=
  ∀ envelope ∈ state.sent, CallMatches state.tables envelope.call
  deriving Decidable

/-- A repair that finds a running operation finds one of its own direction and
generation. -/
def repairTakesOverOwn (state : State) : Event → Bool
  | .repairBegin task _ =>
    match state.task task with
    | some (.repairing check) =>
      (state.tables.runningOperation check.snapshot.kind check.snapshot.id).all
        fun operation =>
          operation.operationKind == check.operationKind &&
            operation.desiredGeneration == check.desiredGeneration
    | _ => true
  | _ => true

section

variable {state : State} (next : State) (event : Event) {before after : Tables}

theorem requestMatches_kept {request : AgentRequest}
    (keeps : KeepsOperations before after) (holds : RequestMatches before request) :
    RequestMatches after request := by
  obtain ⟨operation, member, key, kind, targetKind, target, generation⟩ := holds
  obtain ⟨kept, keptMember, same⟩ := keeps operation member
  refine ⟨kept, keptMember, ?_, ?_, ?_, ?_, ?_⟩
  · rw [same.idempotencyKey, key]
  · rw [same.operationKind, kind]
  · rw [same.targetKind, targetKind]
  · rw [same.targetId, target]
  · rw [same.desiredGeneration, generation]

theorem callMatches_kept {call : AgentCall}
    (keeps : KeepsOperations before after) (holds : CallMatches before call) :
    CallMatches after call := by
  cases call with
  | operate request => exact requestMatches_kept keeps holds
  | reconcile => trivial

theorem start_matches (taken : step state event = some next)
    (own : repairTakesOverOwn state event = true) {id : TaskId} {task : Task}
    (start : TaskStart state event next.tables id task) {server : Uuid} {call : AgentCall}
    (calls : task.outgoing = some (server, call)) : CallMatches next.tables call := by
  cases start with
  | reconnecting connect row operation _ _ _ _ _ _ created inserted _ =>
    cases calls
    refine ⟨operation, inserted, rfl, rfl, ?_, ?_, rfl⟩
    · rw [created]
      exact reconnectedRow_identity.kind.symm
    · rw [created]
      exact reconnectedRow_identity.id.symm
  | connecting connect address runtime row operation _ _ _ _ created inserted _
  | disconnecting request allowed now accepted operation _ _ created inserted _ =>
    cases calls
    refine ⟨operation, inserted, rfl, rfl, ?_, ?_, rfl⟩ <;>
    · rw [created]
      rfl
  | resumed received old _ _ _ resumes =>
    cases resumes <;> cases calls
  | probing check _ _ =>
    cases calls
    trivial
  | takingOver now check operation happened found running =>
    cases calls
    subst happened
    simp only [repairTakesOverOwn, found, running, Option.all_some, Bool.and_eq_true,
      beq_iff_eq] at own
    obtain ⟨member, targetKind, target, _⟩ := runningOperation_spec running
    exact requestMatches_kept (step_keepsOperations taken)
      ⟨operation, member, rfl, own.1, targetKind, target, own.2⟩
  | repairing now check operation _ _ created inserted =>
    cases calls
    refine ⟨operation, inserted, rfl, ?_, ?_, ?_, ?_⟩ <;>
    · rw [created]
      rfl
  | connectChecked | connectAllocated | passReading | queued | sweeping | cuttingOff | granting =>
    cases calls

end

/-- While `repairTakesOverOwn`, every request sent matches the row holding its key. -/
theorem requests_match (start : State) (events : List Event) (idle : start.sent = [])
    (meets : RunMeets step (repairTakesOverOwn · ·) events start) :
    AlwaysAlong step RequestsMatch events start := by
  refine alwaysAlong_of_invariant RequestsMatch RequestsMatch ?_ (fun _ holds => holds) ?_ meets
  · intro state event next holds own taken envelope member
    obtain ⟨added, sent, starts⟩ := step_calls state next event taken
    rw [sent] at member
    rcases List.mem_append.mp member with old | new
    · exact callMatches_kept (step_keepsOperations taken) (holds envelope old)
    · obtain ⟨task, start, calls⟩ := starts envelope new
      exact start_matches next event taken own start calls
  · intro envelope member
    rw [idle] at member
    cases member

def retriedConnect : List Event :=
  peerInserted ++ [.answer 0 .ambiguous, .passBegin ⟨.wireguardPeer, true, none⟩ 11, .passRead 1 50,
    .rowStart 2, .answer 2 (.observed .driftDetected none), .repairBegin 2 12]

theorem requests_match_retriedConnect :
    RunMeets step (repairTakesOverOwn · ·) retriedConnect smallStart ∧
      AlwaysAlong step RequestsMatch retriedConnect smallStart :=
  ⟨by decide +kernel, requests_match smallStart retriedConnect rfl (by decide +kernel)⟩

/-- After a lost answer the device is revoked; the removal is sent under the connect's key. -/
def revokedAfterLostAnswer : List Event :=
  peerInserted ++ [.answer 0 .ambiguous, .revokeDevice 2 11,
    .passBegin ⟨.wireguardPeer, true, none⟩ 12, .passRead 1 50, .rowStart 2,
    .answer 2 (.observed .inSync (some 1)), .repairBegin 2 13]

theorem request_mismatch_revokedAfterLostAnswer :
    ¬ AlwaysAlong step RequestsMatch revokedAfterLostAnswer smallStart :=
  not_alwaysAlong RequestsMatch revokedAfterLostAnswer smallStart (by decide +kernel)

end Nebula.Lifecycle
