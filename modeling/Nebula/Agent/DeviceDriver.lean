import Nebula.Candidate
import Nebula.Agent.WireGuard

/-!
# Concurrent WireGuard requests

The requests of one `NativeWireGuardDriver`, with every wait between their steps. All read the
last-known-good peers, write the one candidate file, run `wg syncconf` on it and promote it. A
provision may wait for the server's public key between reading the peers and writing the candidate.
-/

namespace Nebula.Agent

open Schema Store Work Candidate Runs

/-- `RenderedPeer`, with the keepalive that only provisioning sets. -/
structure DevicePeer where
  publicKey : PublicKey
  assignedAddress : IPAddress
  persistentKeepaliveSeconds : Option Nat
  generation : Nat
  deriving DecidableEq

inductive DeviceRequest where
  | provision (publicKey : PublicKey) (assignedAddress : IPAddress)
    (persistentKeepaliveSeconds : Option Nat) (desiredGeneration : Nat)
  | enable (publicKey : PublicKey) (assignedAddress : IPAddress) (desiredGeneration : Nat)
  | disable (publicKey : PublicKey)
  | revoke (publicKey : PublicKey)
  deriving DecidableEq

namespace DeviceRequest

def peer : DeviceRequest → Option DevicePeer
  | .provision publicKey assignedAddress keepalive desiredGeneration =>
    some ⟨publicKey, assignedAddress, keepalive, desiredGeneration⟩
  | .enable publicKey assignedAddress desiredGeneration =>
    some ⟨publicKey, assignedAddress, none, desiredGeneration⟩
  | .disable _ | .revoke _ => none

def publicKey : DeviceRequest → PublicKey
  | .provision publicKey _ _ _ | .enable publicKey _ _ => publicKey
  | .disable publicKey | .revoke publicKey => publicKey

def desired (request : DeviceRequest) (current : List DevicePeer) : List DevicePeer :=
  match request.peer with
  | some peer => upsert DevicePeer.publicKey peer current
  | none => remove DevicePeer.publicKey request.publicKey current

/-- Whether the method waits for `_server_pubkey()`. -/
def derivesKey : DeviceRequest → Bool
  | .provision _ _ _ _ => true
  | _ => false

def addressValid (clientPool : IPNetwork) (request : DeviceRequest) : Bool :=
  request.peer.all fun peer => clientPool.contains peer.assignedAddress

end DeviceRequest

structure DeviceDriver where
  clientPool : IPNetwork
  serverKeyKnown : Bool
  desk : Desk (List DevicePeer) DeviceRequest

inductive DeviceEvent where
  | arrive (request : DeviceRequest)
  | proceed (id : Nat) (move : Move)

namespace DeviceDriver

variable (driver : DeviceDriver)

def arrive (request : DeviceRequest) : DeviceDriver :=
  if request.addressValid driver.clientPool then
    { driver with
      desk := driver.desk.begin DeviceRequest.desired request
        (request.derivesKey && !driver.serverKeyKnown) }
  else { driver with desk := { driver.desk with spoiled := true } }

def step : DeviceEvent → Option DeviceDriver
  | .arrive request => some (driver.arrive request)
  | .proceed id move =>
    (driver.desk.drive DeviceRequest.desired id move).map fun desk =>
      { driver with
        -- Only `_server_pubkey()` is waited for before the candidate is written.
        serverKeyKnown := driver.serverKeyKnown || decide (move = .prepared)
        desk := desk }

/-- The peers it read are still the last-known-good ones. -/
def current : DeviceEvent → Bool
  | .arrive _ => true
  | .proceed id move => driver.desk.current id move

end DeviceDriver

/-- Once all have succeeded, the peers recorded and last synced are what the requests leave in some
order. -/
def NoLostUpdate (before : List DevicePeer) (driver : DeviceDriver) : Prop :=
  Serial DeviceRequest.desired before driver.desk
  deriving Decidable

theorem step_sound (before : List DevicePeer) (driver : DeviceDriver) (event : DeviceEvent)
    (next : DeviceDriver) (sound : driver.desk.Sound DeviceRequest.desired before)
    (current : driver.current event = true) (taken : driver.step event = some next) :
    next.desk.Sound DeviceRequest.desired before := by
  cases event with
  | arrive request =>
    cases taken
    unfold DeviceDriver.arrive
    split
    · exact driver.desk.sound_begin _ before request _ sound
    · exact ⟨sound.numbered, Or.inr (.spoiled rfl)⟩
  | proceed id move =>
    obtain ⟨desk, driven, same⟩ := Option.map_eq_some_iff.mp taken
    subst same
    exact driver.desk.sound_drive _ before id current driven sound

structure Idle (driver : DeviceDriver) : Prop where
  jobs : driver.desk.jobs = Pool.empty
  done : driver.desk.done = []

/-- No update is lost while provisions that waited for the server's key are `current`. -/
theorem no_update_lost (events : List DeviceEvent) (start : DeviceDriver) (idle : Idle start)
    (meets : RunMeets DeviceDriver.step (fun driver event => driver.current event = true)
      events start) :
    AlwaysAlong DeviceDriver.step (NoLostUpdate start.desk.files.record) events start := by
  refine alwaysAlong_of_invariant
    (fun driver => driver.desk.Sound DeviceRequest.desired start.desk.files.record)
    (NoLostUpdate start.desk.files.record) ?_
    (fun driver sound => driver.desk.serial_of_sound _ _ sound)
    (start.desk.sound_start _ _ idle.jobs idle.done rfl) meets
  intro driver event next sound current taken
  exact step_sound _ driver event next sound current taken

/-! ## Changes as the fleet sends them

`PeerChange` is a provision without keepalive or a revocation; each of its steps is a move
of the same files. -/

def DevicePeer.rendered (peer : DevicePeer) : RenderedPeer :=
  ⟨peer.publicKey, peer.assignedAddress, peer.generation⟩

def PeerChange.request (change : PeerChange) : DeviceRequest :=
  match change.operationKind with
  | .provisionDevice =>
    .provision change.publicKey change.assignedAddress none change.desiredGeneration
  | .revokeDevice => .revoke change.publicKey

theorem desired_rendered (change : PeerChange) (current : List DevicePeer) :
    (change.request.desired current).map DevicePeer.rendered =
      change.desired (current.map DevicePeer.rendered) := by
  have kept : (remove DevicePeer.publicKey change.publicKey current).map DevicePeer.rendered =
      remove RenderedPeer.publicKey change.publicKey (current.map DevicePeer.rendered) := by
    simp only [remove, List.filter_map]
    rfl
  unfold PeerChange.request PeerChange.desired
  cases change.operationKind with
  | provisionDevice =>
    simp only [DeviceRequest.desired, DeviceRequest.peer, withPeer, upsert, List.map_append, kept]
    rfl
  | revokeDevice => exact kept

def Interface.files (interface : Interface) (given : Option Peers) :
    Files Peers :=
  ⟨interface.record, interface.candidate, given⟩

inductive AtPhase : WireGuardPhase → Phase Peers → Prop
  | derivingKey (current : Peers) : AtPhase (.derivingKey current) (.preparing current)
  | syncing (current : Peers) : AtPhase (.syncing current) (.applying current)
  | synced (current : Peers) : AtPhase (.synced current) (.applied current)
  | rollingBack (current : Peers) : AtPhase (.rollingBack current) (.restoring current)

inductive AtOutcome : Outcome WireGuardPhase → Status Peers → Prop
  | goesOn (phase : WireGuardPhase) (own : Phase Peers)
    (atPhase : AtPhase phase own) : AtOutcome (.goesOn phase) (.goesOn own)
  | applied (generation : Nat) : AtOutcome (.answers (.applied generation)) (.finished true)
  | failed (generation : Nat) : AtOutcome (.answers (.failed generation)) (.finished false)
  | rejected : AtOutcome (.answers .rejected) (.finished false)

theorem step_moves (change : PeerChange) (interface after : Interface) (phase : WireGuardPhase)
    (own : Phase Peers) (atPhase : AtPhase phase own) (event : WireGuardEvent)
    (outcome : Outcome WireGuardPhase) (given : Option Peers)
    (stepped : change.step interface phase event = some (after, outcome)) :
    ∃ move status handed, AtOutcome outcome status ∧
      (interface.files given).move change.desired own move = some (after.files handed, status) := by
  unfold PeerChange.step at stepped
  split at stepped
  · cases atPhase
    cases stepped
    exact ⟨.prepared, _, given, .goesOn _ _ (.syncing _), rfl⟩
  · cases atPhase
    cases stepped
    exact ⟨.refused, _, given, .rejected, rfl⟩
  · cases atPhase
    obtain ⟨peers, written, same⟩ := Option.map_eq_some_iff.mp stepped
    cases same
    refine ⟨.read, _, some peers, .goesOn _ _ (.synced _), ?_⟩
    simp [Files.move, Interface.files, written, Files.hand]
  · cases atPhase
    split at stepped
    · rename_i peers written
      cases stepped
      refine ⟨.succeeded, _, given, .applied _, ?_⟩
      simp [Files.move, Interface.files, written]
    · rename_i missing
      cases stepped
      refine ⟨.succeeded, _, given, .rejected, ?_⟩
      simp [Files.move, Interface.files, missing]
  · cases atPhase
    split at stepped
    · cases stepped
      exact ⟨.failed, _, _, .goesOn _ _ (.rollingBack _), rfl⟩
    · cases stepped
  · cases atPhase
    obtain ⟨peers, written, same⟩ := Option.map_eq_some_iff.mp stepped
    cases same
    refine ⟨.restored, _, some peers, .failed _, ?_⟩
    simp [Files.move, Interface.files, written, Files.hand]
  all_goals try
    cases atPhase
    split at stepped
    · cases stepped
      exact ⟨.gaveUp, _, _, .rejected, rfl⟩
    · cases stepped
  cases stepped

def oldPeer : DevicePeer :=
  ⟨5, ⟨.v4, 167772165⟩, none, 1⟩

def newProvision : DeviceRequest :=
  .provision 7 ⟨.v4, 167772167⟩ (some 25) 1

def startedDriver : DeviceDriver :=
  { clientPool := ⟨.v4, 167772160, 24⟩
    serverKeyKnown := false
    desk :=
      { files := ⟨[oldPeer], none, none⟩
        jobs := .empty
        done := []
        spoiled := false } }

def revokedAfterKey : List DeviceEvent :=
  [.arrive newProvision, .proceed 0 .prepared, .proceed 0 .read, .proceed 0 .succeeded,
    .arrive (.revoke 5), .proceed 1 .read, .proceed 1 .succeeded]

/-- The key is derived after the peer was revoked; the provision writes it back. -/
def revokedBeforeKey : List DeviceEvent :=
  [.arrive newProvision, .arrive (.revoke 5), .proceed 1 .read, .proceed 1 .succeeded,
    .proceed 0 .prepared, .proceed 0 .read, .proceed 0 .succeeded]

theorem no_update_lost_revokedAfterKey :
    AlwaysAlong DeviceDriver.step (NoLostUpdate [oldPeer]) revokedAfterKey startedDriver ∧
      ∃ final, runEvents DeviceDriver.step revokedAfterKey startedDriver = some final ∧
        final.desk.done = [newProvision, .revoke 5] ∧
        final.desk.files.record.map DevicePeer.publicKey = [7] :=
  ⟨no_update_lost revokedAfterKey startedDriver ⟨rfl, rfl⟩ (by decide +kernel),
    runEvents_exists DeviceDriver.step _ _ _ (by decide +kernel)⟩

/-- Both requests succeed, and the revoked peer is in the record, as in neither order. -/
theorem update_lost_revokedBeforeKey :
    ¬AlwaysAlong DeviceDriver.step (NoLostUpdate [oldPeer]) revokedBeforeKey startedDriver ∧
      (∃ final, runEvents DeviceDriver.step revokedBeforeKey startedDriver = some final ∧
        final.desk.jobs.jobs = [] ∧ final.desk.spoiled = false ∧
        final.desk.done = [.revoke 5, newProvision] ∧ oldPeer ∈ final.desk.files.record) ∧
      ∀ order ∈ [[.revoke 5, newProvision], [newProvision, .revoke 5]],
        oldPeer ∉ inOrder DeviceRequest.desired [oldPeer] order :=
  ⟨not_alwaysAlong _ _ _ (by decide +kernel),
    runEvents_exists DeviceDriver.step _ _ _ (by decide +kernel), by decide +kernel⟩

end Nebula.Agent
