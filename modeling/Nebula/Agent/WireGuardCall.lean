import Nebula.Effects
import Nebula.Agent.WireGuard

/-!
# One WireGuard call from beginning to end

`provision_device` and `revoke_device` when nothing runs beside them: an error keeps what was done
before it. A command succeeds, fails or is killed at its timeout; one that does not succeed leaves
the interface with whatever peers it had set by then.

The methods answer `failed` for a validation or apply error only. A timeout is not caught, and
nothing is rolled back for it.
-/

namespace Nebula.Agent

open Effects ControlPlane

inductive SyncEnd where
  | succeeded
  | failed (kernel : List KernelPeer)
  | timedOut (kernel : List KernelPeer)

inductive KeyEnd where
  | succeeded
  | failed
  | timedOut
  deriving DecidableEq

structure CommandEnds where
  key : KeyEnd
  sync : SyncEnd
  rollback : SyncEnd

/-- What a driver method raises; a timeout is `SubprocessTimeoutError`. -/
inductive DriverError where
  | validation
  | apply
  | rollbackFailed
  | timeout
  | rollbackTimeout

inductive Reported where
  | success (generation : Nat)
  | failed (generation : Nat)

abbrev DriverM := Program DriverError Interface

def writeCandidateFile (peers : Peers) : DriverM Unit :=
  modify fun interface => interface.writeCandidate peers

/-- `wg syncconf` on the candidate; whether it returned zero. -/
def runSyncconf (ended : SyncEnd) (killed : DriverError) : DriverM Bool := do
  match ended with
  | .succeeded =>
    modify fun interface => { interface with kernel := syncconf (interface.candidate.getD []) }
    return true
  | .failed kernel =>
    modify fun interface => { interface with kernel := kernel }
    return false
  | .timedOut kernel =>
    modify fun interface => { interface with kernel := kernel }
    throw killed

def promoteCandidate : DriverM Unit :=
  modify fun interface =>
    { interface with record := interface.candidate.getD [], candidate := none }

variable (change : PeerChange) (ends : CommandEnds) (interface : Interface)

def rollBack : DriverM Unit := do
  writeCandidateFile (← get).record
  let zero ← runSyncconf ends.rollback .rollbackTimeout
  if zero = false then throw .rollbackFailed

def applyDelta (desired : Peers) : DriverM Unit := do
  writeCandidateFile desired
  let zero ← runSyncconf ends.sync .timeout
  if zero = false then
    rollBack ends
    throw .apply
  promoteCandidate

def serverPubkey : DriverM Unit := do
  if (← get).serverKeyKnown = false then
    match ends.key with
    | .succeeded => modify fun interface => { interface with serverKeyKnown := true }
    | .failed => throw .apply
    | .timedOut => throw .timeout

def PeerChange.attempt (current : Peers) : DriverM Reported :=
  tryCatch
    (do
      applyDelta ends (change.desired current)
      return .success change.desiredGeneration)
    fun error =>
      match error with
      | .validation | .apply => return .failed (change.lastAppliedGeneration current)
      | other => throw other

def PeerChange.perform : DriverM Reported := do
  match change.operationKind with
  | .provisionDevice =>
    if (← get).clientPool.contains change.assignedAddress = false then throw .validation
    let current := (← get).record
    serverPubkey ends
    change.attempt ends current
  | .revokeDevice =>
    let current := (← get).record
    change.attempt ends current

def Interface.inSync : Bool :=
  decide (interface.kernel = syncconf interface.record)

/-- The interface has the recorded peers: the changed ones on success, the previous ones otherwise.
A rollback that fails is excepted. -/
def AllOrNothing (before : Interface) :
    EStateM.Result DriverError Interface Reported → Prop
  | .ok (.success _) after =>
    after.kernel = syncconf after.record ∧ after.record = change.desired before.record
  | .ok (.failed _) after =>
    after.kernel = syncconf after.record ∧ after.record = before.record
  | .error .rollbackFailed _ | .error .rollbackTimeout _ => True
  | .error _ after => after.kernel = syncconf after.record ∧ after.record = before.record

instance (before : Interface) (result : EStateM.Result DriverError Interface Reported) :
    Decidable (AllOrNothing change before result) := by
  unfold AllOrNothing
  split <;> infer_instance

def PeerChange.refused : Bool :=
  match change.operationKind with
  | .provisionDevice =>
    !interface.clientPool.contains change.assignedAddress ||
      (!interface.serverKeyKnown && decide (ends.key ≠ .succeeded))
  | .revokeDevice => false

/-- A refused call begins in sync; the sync of another does not time out, or leaves the recorded
peers. -/
def leavesWhole : Bool :=
  if change.refused ends interface then interface.inSync
  else
    match ends.sync with
    | .timedOut kernel => decide (kernel = syncconf interface.record)
    | .succeeded | .failed _ => true

theorem runSyncconf_result (ended : SyncEnd) (killed : DriverError) (interface : Interface) :
    (runSyncconf ended killed).run interface =
      match ended with
      | .succeeded =>
        .ok true { interface with kernel := syncconf (interface.candidate.getD []) }
      | .failed kernel => .ok false { interface with kernel := kernel }
      | .timedOut kernel => .error killed { interface with kernel := kernel } := by
  cases ended <;> rfl

theorem rollBack_result :
    (rollBack ends).run interface =
      match ends.rollback with
      | .succeeded =>
        .ok () { interface with
          kernel := syncconf interface.record
          candidate := some interface.record }
      | .failed kernel =>
        .error .rollbackFailed
          { interface with kernel := kernel, candidate := some interface.record }
      | .timedOut kernel =>
        .error .rollbackTimeout
          { interface with kernel := kernel, candidate := some interface.record } := by
  simp only [rollBack, writeCandidateFile, Interface.writeCandidate, run_bind, run_get, run_modify,
    runSyncconf_result]
  cases ends.rollback <;> simp

theorem applyDelta_result (desired : Peers) (interface : Interface) :
    (applyDelta ends desired).run interface =
      match ends.sync with
      | .succeeded =>
        .ok () { interface with
          kernel := syncconf desired
          record := desired
          candidate := none }
      | .failed kernel =>
        match (rollBack ends).run
          { interface with kernel := kernel, candidate := some desired } with
        | .ok () after => .error .apply after
        | .error error after => .error error after
      | .timedOut kernel =>
        .error .timeout { interface with kernel := kernel, candidate := some desired } := by
  simp only [applyDelta, writeCandidateFile, Interface.writeCandidate, run_bind, run_modify,
    runSyncconf_result]
  cases ends.sync with
  | succeeded => simp [promoteCandidate]
  | failed kernel =>
    simp only [if_true, run_bind, run_throw]
    cases (rollBack ends).run { interface with kernel := kernel, candidate := some desired } <;>
      rfl
  | timedOut kernel => rfl

theorem attempt_result (current : Peers) (interface : Interface) :
    (change.attempt ends current).run interface =
      match (applyDelta ends (change.desired current)).run interface with
      | .ok () after => .ok (.success change.desiredGeneration) after
      | .error .validation after => .ok (.failed (change.lastAppliedGeneration current)) after
      | .error .apply after => .ok (.failed (change.lastAppliedGeneration current)) after
      | .error error after => .error error after := by
  simp only [PeerChange.attempt, run_tryCatch, run_bind, run_pure]
  cases (applyDelta ends (change.desired current)).run interface with
  | ok _ after => rfl
  | error error after => cases error <;> rfl

theorem attempt_allOrNothing :
    AllOrNothing change interface ((change.attempt ends interface.record).run interface) ↔
      (match ends.sync with
        | .timedOut kernel => decide (kernel = syncconf interface.record)
        | .succeeded | .failed _ => true) = true := by
  rw [attempt_result, applyDelta_result]
  cases ends.sync with
  | succeeded | timedOut => simp [AllOrNothing]
  | failed kernel =>
    simp only [rollBack_result]
    cases ends.rollback <;> simp [AllOrNothing]

theorem serverPubkey_result :
    (serverPubkey ends).run interface =
      if interface.serverKeyKnown = true then .ok () interface
      else
        match ends.key with
        | .succeeded => .ok () { interface with serverKeyKnown := true }
        | .failed => .error .apply interface
        | .timedOut => .error .timeout interface := by
  simp only [serverPubkey, run_bind, run_get, run_ite]
  cases interface.serverKeyKnown with
  | true => rfl
  | false => cases ends.key <;> rfl

theorem perform_provision (provisions : change.operationKind = .provisionDevice) :
    (change.perform ends).run interface =
      if interface.clientPool.contains change.assignedAddress = false then
        .error .validation interface
      else
        match (serverPubkey ends).run interface with
        | .ok _ after => (change.attempt ends interface.record).run after
        | .error error after => .error error after := by
  simp only [PeerChange.perform, provisions, run_bind, run_get, run_ite]
  split
  · rfl
  · cases (serverPubkey ends).run interface <;> rfl

theorem perform_revoke (revokes : change.operationKind = .revokeDevice) :
    (change.perform ends).run interface = (change.attempt ends interface.record).run interface := by
  simp only [PeerChange.perform, revokes, run_bind, run_get]

/-- A call is all or nothing exactly when it leaves the interface whole. -/
theorem perform_allOrNothing :
    AllOrNothing change interface ((change.perform ends).run interface) ↔
      leavesWhole change ends interface = true := by
  cases kind : change.operationKind with
  | revokeDevice =>
    rw [perform_revoke change ends interface kind, attempt_allOrNothing, leavesWhole,
      PeerChange.refused, kind]
    simp
  | provisionDevice =>
    rw [perform_provision change ends interface kind, serverPubkey_result]
    by_cases outside : interface.clientPool.contains change.assignedAddress = false
    · simp [outside, AllOrNothing, leavesWhole, PeerChange.refused, kind, Interface.inSync]
    cases known : interface.serverKeyKnown with
    | true =>
      have tried := attempt_allOrNothing change ends interface
      simpa [leavesWhole, PeerChange.refused, kind, outside, known] using tried
    | false =>
      cases key : ends.key with
      | succeeded =>
        have tried := attempt_allOrNothing change ends { interface with serverKeyKnown := true }
        change AllOrNothing change interface _ ↔ _ at tried
        simpa [leavesWhole, PeerChange.refused, kind, outside, known, key] using tried
      | failed | timedOut =>
        simp [AllOrNothing, leavesWhole, PeerChange.refused, kind, outside, known, key,
          Interface.inSync]

/-! ## The same call, step by step -/

def PeerChange.drive (change : PeerChange) :
    Interface × Outcome WireGuardPhase → List WireGuardEvent → Option (Interface × AgentAnswer)
  | (interface, .answers answer), [] => some (interface, answer)
  | (interface, .goesOn phase), event :: rest =>
    (change.step interface phase event).bind fun next => change.drive next rest
  | _, _ => none

def SyncEnd.rollbackEvents : SyncEnd → List WireGuardEvent
  | .succeeded => [.rolledBack]
  | .failed kernel => [.rollbackFailed kernel]
  | .timedOut kernel => [.timedOut kernel]

def CommandEnds.syncEvents : List WireGuardEvent :=
  match ends.sync with
  | .succeeded => [.syncApplied, .syncSucceeded]
  | .failed kernel => .syncFailed kernel :: ends.rollback.rollbackEvents
  | .timedOut kernel => [.timedOut kernel]

def CommandEnds.events (ends : CommandEnds) (change : PeerChange) (interface : Interface) :
    List WireGuardEvent :=
  match change.operationKind with
  | .revokeDevice => ends.syncEvents
  | .provisionDevice =>
    if interface.clientPool.contains change.assignedAddress = false then []
    else if interface.serverKeyKnown = true then ends.syncEvents
    else if ends.key = .succeeded then .keyDerived :: ends.syncEvents
    else [.keyFailed]

def seenFrom : EStateM.Result DriverError Interface Reported → Interface × AgentAnswer
  | .ok (.success generation) after => (after, .applied generation)
  | .ok (.failed generation) after => (after, .failed generation)
  | .error _ after => (after, .rejected)

structure CommandEnds.Within (ends : CommandEnds) (change : PeerChange) (interface : Interface) :
    Prop where
  sync : ∀ kernel, ends.sync = .failed kernel ∨ ends.sync = .timedOut kernel →
    (interface.writeCandidate (change.desired interface.record)).partialSync kernel = true
  rollback : ∀ left kernel, ends.sync = .failed left →
    ends.rollback = .failed kernel ∨ ends.rollback = .timedOut kernel →
    ({ interface with kernel := left }.writeCandidate interface.record).partialSync kernel = true

theorem attempt_driven {change : PeerChange} {ends : CommandEnds} (interface : Interface)
    (within : ends.Within change interface) :
    change.drive (change.beginApply interface interface.record) ends.syncEvents =
      some (seenFrom ((change.attempt ends interface.record).run interface)) := by
  rw [attempt_result, applyDelta_result]
  unfold CommandEnds.syncEvents
  cases synced : ends.sync with
  | succeeded =>
    simp [PeerChange.beginApply, PeerChange.drive, PeerChange.step, Interface.writeCandidate,
      seenFrom]
  | failed kernel =>
    have first := within.sync kernel (Or.inl synced)
    simp only [Interface.writeCandidate] at first
    simp only [rollBack_result]
    cases rolled : ends.rollback with
    | succeeded =>
      simp [PeerChange.beginApply, PeerChange.drive, PeerChange.step, Interface.writeCandidate,
        SyncEnd.rollbackEvents, first, seenFrom]
    | failed left =>
      have second := within.rollback kernel left synced (Or.inl rolled)
      simp only [Interface.writeCandidate] at second
      simp [PeerChange.beginApply, PeerChange.drive, PeerChange.step, Interface.writeCandidate,
        SyncEnd.rollbackEvents, first, second, seenFrom]
    | timedOut left =>
      have second := within.rollback kernel left synced (Or.inr rolled)
      simp only [Interface.writeCandidate] at second
      simp [PeerChange.beginApply, PeerChange.drive, PeerChange.step, Interface.writeCandidate,
        SyncEnd.rollbackEvents, first, second, seenFrom]
  | timedOut kernel =>
    have first := within.sync kernel (Or.inr synced)
    simp only [Interface.writeCandidate] at first
    simp [PeerChange.beginApply, PeerChange.drive, PeerChange.step, Interface.writeCandidate,
      first, seenFrom]

/-- Run alone, a call ends as its steps in the fleet do. -/
theorem perform_driven (within : ends.Within change interface) :
    change.drive (change.start interface) (ends.events change interface) =
      some (seenFrom ((change.perform ends).run interface)) := by
  unfold CommandEnds.events PeerChange.start
  cases kind : change.operationKind with
  | revokeDevice =>
    rw [perform_revoke change ends interface kind]
    exact attempt_driven interface within
  | provisionDevice =>
    rw [perform_provision change ends interface kind, serverPubkey_result]
    by_cases outside : interface.clientPool.contains change.assignedAddress = false
    · simp [outside, PeerChange.drive, seenFrom]
    cases known : interface.serverKeyKnown with
    | true =>
      simpa [outside, known] using attempt_driven interface within
    | false =>
      cases key : ends.key with
      | succeeded =>
        have later := attempt_driven { interface with serverKeyKnown := true }
          ⟨within.sync, within.rollback⟩
        simpa [outside, known, PeerChange.drive, PeerChange.step] using later
      | failed | timedOut => simp [outside, PeerChange.drive, PeerChange.step, seenFrom]

def emptyInterface : Interface :=
  { clientPool := ⟨.v4, 167772160, 8⟩
    serverKeyKnown := true
    record := []
    candidate := none
    kernel := [] }

def firstProvision : PeerChange :=
  { operationKind := .provisionDevice
    publicKey := 7
    assignedAddress := ⟨.v4, 167772162⟩
    desiredGeneration := 1 }

def killedSync : CommandEnds :=
  { key := .succeeded
    sync := .timedOut (syncconf (firstProvision.desired []))
    rollback := .succeeded }

theorem perform_driven_killedSync :
    firstProvision.drive (firstProvision.start emptyInterface)
        (killedSync.events firstProvision emptyInterface) =
      some (seenFrom ((firstProvision.perform killedSync).run emptyInterface)) := by
  refine perform_driven _ _ _ ⟨?_, nofun⟩
  rintro kernel (failed | killed)
  · cases failed
  · cases killed
    decide

/-- The peer is on the interface and not in the last-known-good file. -/
theorem half_applied_killedSync :
    ¬ AllOrNothing firstProvision emptyInterface
      ((firstProvision.perform killedSync).run emptyInterface) := by
  decide +kernel

end Nebula.Agent
