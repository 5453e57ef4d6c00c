import Nebula.Agent.Ledger

/-!
# The WireGuard driver

`drivers/config_store.py` and `drivers/wireguard.py`. A change reads the last-known-good peers,
writes the changed set as the candidate file, has `wg syncconf` apply it and promotes it. Nothing
keeps other requests out in between: the candidate that is synced or promoted is whatever lies there
then.

The text of a file stands for the peers it parses to.
-/

namespace Nebula.Agent

open Schema Store ControlPlane

structure RenderedPeer where
  publicKey : PublicKey
  assignedAddress : IPAddress
  generation : Nat
  deriving DecidableEq

abbrev Peers := List RenderedPeer

variable (peers : Peers)

def withPeer (peer : RenderedPeer) : Peers :=
  upsert RenderedPeer.publicKey peer peers

def withoutPeer (publicKey : PublicKey) : Peers :=
  remove RenderedPeer.publicKey publicKey peers

def peerOf (publicKey : PublicKey) : Option RenderedPeer :=
  lookup RenderedPeer.publicKey publicKey peers

/-- A line of `wg show dump`. -/
structure KernelPeer where
  publicKey : PublicKey
  allowedIps : Option IPAddress
  deriving DecidableEq

/-- Exactly the peers of the file, an address listed twice being routed to the last that names it.
-/
def syncconf : Peers → List KernelPeer
  | [] => []
  | peer :: rest =>
    ⟨peer.publicKey,
      if rest.any fun other => other.assignedAddress == peer.assignedAddress then none
      else some peer.assignedAddress⟩ :: syncconf rest

def kernelKeys (kernel : List KernelPeer) : List PublicKey :=
  kernel.map KernelPeer.publicKey

def peerKeys : List PublicKey :=
  peers.map RenderedPeer.publicKey

structure Interface where
  clientPool : IPNetwork
  serverKeyKnown : Bool
  record : Peers
  candidate : Option Peers
  kernel : List KernelPeer
  deriving DecidableEq

structure PeerChange where
  operationKind : OperationKind
  publicKey : PublicKey
  assignedAddress : IPAddress
  desiredGeneration : Nat

variable (change : PeerChange)

def PeerChange.desired (current : Peers) :
    Peers :=
  match change.operationKind with
  | .provisionDevice =>
    withPeer current ⟨change.publicKey, change.assignedAddress, change.desiredGeneration⟩
  | .revokeDevice => withoutPeer current change.publicKey

def PeerChange.lastAppliedGeneration (current : Peers) : Nat :=
  match peerOf current change.publicKey with
  | none => 0
  | some previous => previous.generation

inductive WireGuardPhase where
  | derivingKey (current : Peers)
  | syncing (current : Peers)
  | synced (current : Peers)
  | rollingBack (current : Peers)
  | showing
  | shown (live : Option KernelPeer)
  deriving DecidableEq

/-- A sync that fails or is killed leaves some of the old peers and some of the file's. -/
inductive WireGuardEvent where
  | keyDerived
  | keyFailed
  | syncApplied
  | syncSucceeded
  | syncFailed (kernel : List KernelPeer)
  | rolledBack
  | rollbackFailed (kernel : List KernelPeer)
  | timedOut (kernel : List KernelPeer)
  | dumped
  | showFailed
  | showTimedOut
  | compared
  deriving DecidableEq

variable (interface : Interface) (current : Peers) (publicKey : PublicKey)

def Interface.writeCandidate (peers : Peers) : Interface :=
  { interface with candidate := some peers }

def PeerChange.beginApply : Interface × Outcome WireGuardPhase :=
  (interface.writeCandidate (change.desired current), .goesOn (.syncing current))

def PeerChange.start :
    Interface × Outcome WireGuardPhase :=
  match change.operationKind with
  | .provisionDevice =>
    if !interface.clientPool.contains change.assignedAddress then
      (interface, .answers .rejected)
    else if interface.serverKeyKnown then change.beginApply interface interface.record
    else (interface, .goesOn (.derivingKey interface.record))
  | .revokeDevice => change.beginApply interface interface.record

/-- A sync that did not finish leaves no peer that neither the interface nor the file had. -/
def Interface.partialSync (kernel : List KernelPeer) : Bool :=
  kernel.all fun peer =>
    (kernelKeys interface.kernel).contains peer.publicKey ||
      (peerKeys (interface.candidate.getD [])).contains peer.publicKey

def PeerChange.step :
    WireGuardPhase → WireGuardEvent → Option (Interface × Outcome WireGuardPhase)
  | .derivingKey current, .keyDerived =>
    some (change.beginApply { interface with serverKeyKnown := true } current)
  | .derivingKey _, .keyFailed => some (interface, .answers .rejected)
  | .syncing current, .syncApplied =>
    interface.candidate.map fun peers =>
      ({ interface with kernel := syncconf peers }, .goesOn (.synced current))
  | .synced _, .syncSucceeded =>
    match interface.candidate with
    | some peers =>
      some ({ interface with record := peers, candidate := none },
        .answers (.applied change.desiredGeneration))
    -- `os.replace` finds no candidate: another request promoted it.
    | none => some (interface, .answers .rejected)
  | .syncing current, .syncFailed kernel =>
    if interface.partialSync kernel then
      some ({ interface with kernel := kernel }.writeCandidate interface.record,
        .goesOn (.rollingBack current))
    else none
  | .rollingBack current, .rolledBack =>
    interface.candidate.map fun peers =>
      ({ interface with kernel := syncconf peers },
        .answers (.failed (change.lastAppliedGeneration current)))
  | .rollingBack _, .rollbackFailed kernel
  | .syncing _, .timedOut kernel
  | .synced _, .timedOut kernel
  | .rollingBack _, .timedOut kernel =>
    if interface.partialSync kernel then
      some ({ interface with kernel := kernel }, .answers .rejected)
    else none
  | _, _ => none

def WireGuardEvent.leftKernel : WireGuardEvent → Option (List KernelPeer)
  | .rollbackFailed kernel | .timedOut kernel => some kernel
  | _ => none

inductive ChangeStep (change : PeerChange) (interface : Interface) :
    WireGuardPhase → WireGuardEvent → Interface → Outcome WireGuardPhase → Prop
  | keyDerived (current : Peers) :
    ChangeStep change interface (.derivingKey current) .keyDerived
      ({ interface with serverKeyKnown := true }.writeCandidate (change.desired current))
      (.goesOn (.syncing current))
  | keyFailed (current : Peers) :
    ChangeStep change interface (.derivingKey current) .keyFailed interface (.answers .rejected)
  | applied (current peers : Peers) (written : interface.candidate = some peers) :
    ChangeStep change interface (.syncing current) .syncApplied
      { interface with kernel := syncconf peers } (.goesOn (.synced current))
  | promoted (current peers : Peers) (written : interface.candidate = some peers) :
    ChangeStep change interface (.synced current) .syncSucceeded
      { interface with record := peers, candidate := none }
      (.answers (.applied change.desiredGeneration))
  | taken (current : Peers) (missing : interface.candidate = none) :
    ChangeStep change interface (.synced current) .syncSucceeded interface (.answers .rejected)
  | failed (current : Peers) (kernel : List KernelPeer)
    (within : interface.partialSync kernel = true) :
    ChangeStep change interface (.syncing current) (.syncFailed kernel)
      ({ interface with kernel := kernel }.writeCandidate interface.record)
      (.goesOn (.rollingBack current))
  | rolledBack (current peers : Peers) (written : interface.candidate = some peers) :
    ChangeStep change interface (.rollingBack current) .rolledBack
      { interface with kernel := syncconf peers }
      (.answers (.failed (change.lastAppliedGeneration current)))
  | givenUp (phase : WireGuardPhase) (event : WireGuardEvent) (kernel : List KernelPeer)
    (left : event.leftKernel = some kernel) :
    ChangeStep change interface phase event { interface with kernel := kernel }
      (.answers .rejected)

theorem changeStep_of_step {change : PeerChange} {interface after : Interface}
    {phase : WireGuardPhase} {event : WireGuardEvent} {outcome : Outcome WireGuardPhase}
    (stepped : change.step interface phase event = some (after, outcome)) :
    ChangeStep change interface phase event after outcome := by
  unfold PeerChange.step at stepped
  split at stepped
  · cases stepped
    exact .keyDerived _
  · cases stepped
    exact .keyFailed _
  · obtain ⟨peers, written, same⟩ := Option.map_eq_some_iff.mp stepped
    cases same
    exact .applied _ peers written
  · split at stepped
    · rename_i peers written
      cases stepped
      exact .promoted _ peers written
    · rename_i missing
      cases stepped
      exact .taken _ missing
  · split at stepped
    · rename_i within
      cases stepped
      exact .failed _ _ within
    · cases stepped
  · obtain ⟨peers, written, same⟩ := Option.map_eq_some_iff.mp stepped
    cases same
    exact .rolledBack _ peers written
  all_goals try
    split at stepped
    · cases stepped
      exact .givenUp _ _ _ rfl
    · cases stepped
  cases stepped

def compareViews (live : Option KernelPeer) (recorded : Option RenderedPeer)
    (assignedAddress : IPAddress) : AgentAnswer :=
  match live, recorded with
  | some live, some recorded =>
    if live.allowedIps = some assignedAddress ∧ recorded.assignedAddress = assignedAddress then
      .observed .inSync (some recorded.generation)
    else .observed .ambiguous (some recorded.generation)
  | _, _ => .observed .driftDetected none

/-- `reconcile`: the dump is taken first, the record is read when it has come back. -/
def probeStep (assignedAddress : IPAddress) :
    WireGuardPhase → WireGuardEvent → Option (Outcome WireGuardPhase)
  | .showing, .dumped =>
    some (.goesOn (.shown (lookup KernelPeer.publicKey publicKey interface.kernel)))
  | .showing, .showFailed => some (.answers (.observed .ambiguous none))
  | .showing, .showTimedOut => some (.answers .rejected)
  | .shown live, .compared =>
    some (.answers (compareViews live (peerOf interface.record publicKey) assignedAddress))
  | _, _ => none

theorem probeStep_drift {interface : Interface} {publicKey : PublicKey}
    {assignedAddress : IPAddress} {phase : WireGuardPhase} {event : WireGuardEvent}
    {observed : Option Nat} (probed : probeStep interface publicKey assignedAddress phase event =
      some (.answers (.observed .driftDetected observed))) :
    ∃ live, phase = .shown live ∧ (live = none ∨ peerOf interface.record publicKey = none) := by
  cases phase with
  | shown live =>
    cases event with
    | compared =>
      refine ⟨live, rfl, ?_⟩
      cases live with
      | none => exact Or.inl rfl
      | some shown =>
        refine Or.inr ?_
        cases recorded : peerOf interface.record publicKey with
        | none => rfl
        | some peer =>
          simp only [probeStep, compareViews, recorded] at probed
          split at probed <;> cases probed
    | _ => cases probed
  | showing => cases event <;> cases probed
  | _ => cases probed

theorem kernelKeys_syncconf :
    kernelKeys (syncconf peers) = peerKeys peers := by
  induction peers with
  | nil => rfl
  | cons peer rest ih =>
    simp only [kernelKeys, peerKeys, syncconf, List.map_cons] at ih ⊢
    rw [ih]

theorem mem_desired {change : PeerChange} {current : Peers} {peer : RenderedPeer}
    (member : peer ∈ change.desired current) :
    peer ∈ current ∨
      (change.operationKind = .provisionDevice ∧ peer.publicKey = change.publicKey ∧
        peer.assignedAddress = change.assignedAddress) := by
  unfold PeerChange.desired at member
  split at member
  · rename_i kind
    rcases (mem_upsert _).mp member with ⟨old, _⟩ | new
    · exact Or.inl old
    · rw [new]
      exact Or.inr ⟨kind, rfl, rfl⟩
  · exact Or.inl ((mem_remove _).mp member).1

end Nebula.Agent
