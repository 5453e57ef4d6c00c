import Nebula.Fleet.Exclusion
import Nebula.Fleet.Removal

/-!
# Peers written `revoked`

The WireGuard driver has no lock. Two requests at once can sync or promote each other's
candidate, and a sync that is given up can leave a peer at the interface that the record lacks,
which a probe then reports as drift.
-/

namespace Nebula.Fleet

open Schema Store Runs ControlPlane Agent List

variable (interface : Interface)

def Within : Prop :=
  kernelKeys interface.kernel ⊆ peerKeys interface.record

def probedKey : AgentCall → Option PublicKey
  | .reconcile _ _ (.wireguardPeer publicKey _) _ => some publicKey
  | _ => none

def Fits (call : AgentCall) : WireGuardPhase → Prop
  | .derivingKey current => current = interface.record ∧ Within interface
  | .syncing current =>
    current = interface.record ∧ Within interface ∧
      ∀ change, callChange call = some change →
        interface.candidate = some (change.desired current)
  | .synced current =>
    current = interface.record ∧
      ∀ change, callChange call = some change →
        interface.candidate = some (change.desired current) ∧
          kernelKeys interface.kernel ⊆ peerKeys (change.desired current)
  | .rollingBack _ => interface.candidate = some interface.record
  | .showing => Within interface
  | .shown live =>
    Within interface ∧
      (live = none → ∀ publicKey, probedKey call = some publicKey →
        publicKey ∉ kernelKeys interface.kernel)

def FitsAfter (call : AgentCall) : Outcome WireGuardPhase → Prop
  | .goesOn phase => Fits interface call phase
  | .answers _ => Within interface

section

variable (interface after : Interface) {call : AgentCall}

theorem start_fits {change : PeerChange} (asked : callChange call = some change)
    (within : Within interface) :
    FitsAfter (change.start interface).1 call (change.start interface).2 := by
  have begins : FitsAfter (change.beginApply interface interface.record).1 call
      (change.beginApply interface interface.record).2 := by
    refine ⟨rfl, within, ?_⟩
    intro other same
    rw [asked] at same
    cases same
    rfl
  unfold PeerChange.start
  split
  · split
    · exact within
    · split
      · exact begins
      · exact ⟨rfl, within⟩
  · exact begins

variable {outcome : Outcome WireGuardPhase} {phase : WireGuardPhase} {event : WireGuardEvent}

theorem changeStep_fits {change : PeerChange} (asked : callChange call = some change)
    (stepped : ChangeStep change interface phase event after outcome)
    (left : ∀ kernel, event.leftKernel = some kernel →
      kernelKeys kernel ⊆ peerKeys interface.record) (fits : Fits interface call phase) :
    FitsAfter after call outcome := by
  cases stepped with
  | keyDerived current =>
    refine ⟨fits.1, fits.2, ?_⟩
    intro other same
    rw [asked] at same
    cases same
    rfl
  | keyFailed => exact fits.2
  | applied current peers written =>
    refine ⟨fits.1, ?_⟩
    intro other same
    have candidate := fits.2.2 other same
    refine ⟨candidate, ?_⟩
    rw [candidate] at written
    cases written
    simp [kernelKeys_syncconf]
  | promoted current peers written =>
    obtain ⟨candidate, synced⟩ := fits.2 change asked
    rw [candidate] at written
    cases written
    exact synced
  | taken current missing =>
    rw [(fits.2 change asked).1] at missing
    cases missing
  | failed => exact rfl
  | rolledBack current peers written =>
    rw [show interface.candidate = _ from fits] at written
    cases written
    simp [FitsAfter, Within, kernelKeys_syncconf]
  | givenUp _ _ kernel gives => exact left kernel gives

theorem probeStep_fits {publicKey : PublicKey} {address : IPAddress}
    (probed : probedKey call = some publicKey)
    (stepped : probeStep interface publicKey address phase event = some outcome)
    (fits : Fits interface call phase) : FitsAfter interface call outcome := by
  unfold probeStep at stepped
  split at stepped <;> cases stepped
  · refine ⟨fits, ?_⟩
    intro absent other same member
    rw [probed] at same
    cases same
    obtain ⟨peer, present, named⟩ := mem_map.mp member
    obtain ⟨found, looked⟩ := lookup_isSome_of_mem publicKey interface.kernel present named
    rw [absent] at looked
    cases looked
  · exact fits
  · exact fits
  · exact fits.1

end

def AgentCall.isWireguard : AgentCall → Bool
  | .operate request => request.runtime.kind == .wireguardPeer
  | .reconcile _ _ runtime _ => runtime.kind == .wireguardPeer

def Job.isWireguard (job : Job) : Bool :=
  match job.phase with
  | .wireguard _ => true
  | .xray _ => false

/-- A WireGuard driver handles one request; an abandoned sync or a restart leaves no peer the record
lacks; edits only take peers away. -/
def carefulWithPeers (world : World) : WorldEvent → Bool
  | .deliver task _ =>
    world.net.all fun envelope =>
      !(envelope.task == task && AgentCall.isWireguard envelope.call) ||
        decide (world.FreeOf Job.isWireguard envelope.serverId)
  | .drive task (.wireguard event) =>
    world.jobs.all fun job => job.envelope.task != task ||
      event.leftKernel.all fun kernel =>
        decide (kernelKeys kernel ⊆
          peerKeys (world.agents job.envelope.serverId).interface.record)
  | .restart serverId _ kernel =>
    decide (kernelKeys kernel ⊆ peerKeys (world.agents serverId).interface.record)
  | .editInterface serverId kernel =>
    decide (kernelKeys kernel ⊆ kernelKeys (world.agents serverId).interface.kernel)
  | _ => true

def peerRule : Discipline where
  concerns := Job.isWireguard
  fits agent job :=
    match job.phase with
    | .wireguard phase => Fits agent.interface job.envelope.call phase
    | .xray _ => False
  rests agent := Within agent.interface

def PeersTracked (world : World) : Prop :=
  ∀ serverId, Kept peerRule world serverId

section

variable {world : World}

variable {envelope : Envelope} {agent : AgentState}

theorem fits_of_tracked (tracked : PeersTracked world) {phase : WireGuardPhase}
    (member : ⟨envelope, .wireguard phase⟩ ∈ world.jobs) :
    Fits (world.agents envelope.serverId).interface envelope.call phase :=
  (fits_of_kept (tracked _) member rfl rfl).1

theorem bears_of_interface {world : World} {serverId : Uuid}
    (same : agent.interface = (world.agents serverId).interface) :
    Bears peerRule world serverId agent := by
  constructor
  · intro job _ _ _ fits
    simpa only [peerRule, same] using fits
  · intro rests
    simpa only [peerRule, same] using rests

theorem proper_of_fits {world : World} {agent : AgentState} {others : List Job}
    (outcome : Outcome WireGuardPhase)
    (none : ∀ job ∈ others, job.isWireguard = true → job.envelope.serverId ≠ envelope.serverId)
    (fits : FitsAfter agent.interface envelope.call outcome) :
    Proper peerRule world envelope agent others (wireguardOutcome outcome) := by
  refine .alone none ?_ ?_
  · intro phase same
    cases outcome with
    | goesOn wireguard =>
      cases same
      exact ⟨rfl, fits⟩
    | answers answer => cases same
  · intro answer same
    cases outcome with
    | goesOn wireguard => cases same
    | answers answer => exact fits

theorem accepts_proper {readable : Bool} {outcome : Outcome Phase}
    (accepts : Accepts (world.agents envelope.serverId) readable envelope.call agent outcome)
    (careful : AgentCall.isWireguard envelope.call = true →
      world.FreeOf Job.isWireguard envelope.serverId) (tracked : PeersTracked world) :
    Proper peerRule world envelope agent world.jobs outcome := by
  have beside : agent.interface = (world.agents envelope.serverId).interface →
      (∀ phase, outcome = .goesOn phase → phase = .xray .locking) →
      Proper peerRule world envelope agent world.jobs outcome := by
    intro interface foreign
    refine .beside ?_ (fun _ member _ => member) (bears_of_interface interface)
    intro phase same
    rw [foreign phase same]
    rfl
  have within : world.FreeOf Job.isWireguard envelope.serverId →
      Within (world.agents envelope.serverId).interface :=
    rests_of_kept (tracked _)
  generalize called : envelope.call = call at accepts careful
  cases accepts with
  | starts request change asked =>
    obtain ⟨_, address, same, runtime, _⟩ := callChange_spec asked
    cases same
    have free := careful (by simp [AgentCall.isWireguard, runtime, Runtime.kind])
    refine proper_of_fits _ free ?_
    rw [called]
    exact start_fits _ asked (within free)
  | shows targetId generation publicKey address code =>
    have free := careful rfl
    exact proper_of_fits (.goesOn .showing) free (within free)
  | locks request =>
    refine beside rfl ?_
    intro phase same
    cases same
    rfl
  | replays | rejects | compares =>
    refine beside rfl ?_
    intro phase same
    cases same

theorem drives_proper {phase : Phase} {event : DriverEvent} {outcome : Outcome Phase}
    (member : ⟨envelope, phase⟩ ∈ world.jobs)
    (drives : Drives (world.agents envelope.serverId) envelope.call phase event agent outcome)
    (careful : ∀ wireguardEvent kernel, event = .wireguard wireguardEvent →
      wireguardEvent.leftKernel = some kernel →
      kernelKeys kernel ⊆ peerKeys (world.agents envelope.serverId).interface.record)
    (tracked : PeersTracked world) :
    Proper peerRule world envelope (agent.settled envelope.call outcome)
      (world.jobs.filter fun other => other != ⟨envelope, phase⟩) outcome := by
  have alone : ∀ wireguard, phase = .wireguard wireguard →
      ∀ job ∈ world.jobs.filter fun other => other != ⟨envelope, phase⟩,
        job.isWireguard = true → job.envelope.serverId ≠ envelope.serverId := by
    intro wireguard same job present concerned own
    subst same
    obtain ⟨old, different⟩ := mem_filter.mp present
    have one := (fits_of_kept (tracked _) member rfl rfl).2 job old concerned own
    simp [one] at different
  generalize called : envelope.call = call at drives
  cases drives with
  | changes request change wireguard wireguardEvent after outcome asked stepped =>
    have fits := fits_of_tracked tracked member
    refine proper_of_fits outcome (alone wireguard rfl) ?_
    rw [called] at fits
    rw [settled_interface, called]
    exact changeStep_fits _ _ asked stepped
      (fun kernel left => careful wireguardEvent kernel rfl left) fits
  | probes targetId generation publicKey address code wireguard wireguardEvent outcome stepped =>
    have fits := fits_of_tracked tracked member
    refine proper_of_fits outcome (alone wireguard rfl) ?_
    rw [called] at fits
    rw [settled_interface, called]
    exact probeStep_fits _ rfl stepped fits
  | serves request change xray xrayEvent files outcome _ _ =>
    refine .beside ?_ ?_ (bears_of_interface (settled_interface _))
    · intro following same
      cases outcome with
      | goesOn xray =>
        cases same
        rfl
      | answers answer => cases same
    · intro job present concerned
      refine mem_filter.mpr ⟨present, ?_⟩
      have other : job ≠ ⟨envelope, .xray xray⟩ := by
        intro same
        rw [same] at concerned
        cases concerned
      simpa using other

end

theorem step_peersTracked (world : World) (event : WorldEvent) (next : World)
    (careful : carefulWithPeers world event = true) (taken : world.step event = some next)
    (tracked : PeersTracked world) : PeersTracked next := by
  refine step_kept peerRule world next event taken ?_ ?_ ?_ ?_ tracked
  · intro envelope readable agent outcome happened present accepts
    refine accepts_proper accepts ?_ tracked
    intro wireguard
    rw [happened] at careful
    simp only [carefulWithPeers, all_eq_true] at careful
    simpa [wireguard] using careful envelope present
  · intro job driverEvent agent outcome happened present _ drives
    refine drives_proper present drives ?_ tracked
    intro wireguardEvent kernel same left
    rw [happened, same] at careful
    simp only [carefulWithPeers, all_eq_true] at careful
    simpa [left] using careful job present
  · intro serverId entries kernel agent happened shift
    subst happened
    have clean : kernelKeys kernel ⊆ peerKeys (world.agents serverId).interface.record :=
      of_decide_eq_true careful
    cases shift
    exact clean
  · intro serverId agent shift running
    cases shift with
    | restarted _ entries kernel _ => exact absurd rfl (running entries kernel)
    | resynced | servedEdited => exact bears_of_interface rfl
    | interfaceEdited _ kernel =>
      have fewer : kernelKeys kernel ⊆ kernelKeys (world.agents serverId).interface.kernel :=
        of_decide_eq_true careful
      constructor
      swap
      · intro within
        exact Subset.trans fewer within
      rintro ⟨envelope, phase⟩ _ concerned _ fits
      cases phase with
      | wireguard phase =>
        cases phase with
        | derivingKey current => exact ⟨fits.1, Subset.trans fewer fits.2⟩
        | syncing current => exact ⟨fits.1, Subset.trans fewer fits.2.1, fits.2.2⟩
        | synced current =>
          refine ⟨fits.1, ?_⟩
          intro change asked
          exact ⟨(fits.2 change asked).1, Subset.trans fewer (fits.2 change asked).2⟩
        | rollingBack current => exact fits
        | showing => exact Subset.trans fewer fits
        | shown live =>
          refine ⟨Subset.trans fewer fits.1, ?_⟩
          intro absent publicKey probed member
          exact fits.2 absent publicKey probed (fewer member)
      | xray phase => cases concerned

/-! ## Keys that are gone -/

def peerGone (agent : AgentState) : Identity → Prop
  | .peer publicKey =>
    publicKey ∉ peerKeys agent.interface.record ∧
      publicKey ∉ kernelKeys agent.interface.kernel
  | .client _ => False

def peerPresent (agent : AgentState) : Identity → Bool
  | .peer publicKey => (kernelKeys agent.interface.kernel).contains publicKey
  | .client _ => false

section

variable (interface after : Interface) (call : AgentCall) {publicKey : PublicKey}

theorem desired_lacks {change : PeerChange} {current : Peers}
    (other : ¬ (change.operationKind = .provisionDevice ∧ change.publicKey = publicKey))
    (absent : publicKey ∉ peerKeys current) : publicKey ∉ peerKeys (change.desired current) := by
  intro member
  obtain ⟨peer, present, named⟩ := mem_map.mp member
  rcases mem_desired present with old | ⟨kind, key, _⟩
  · exact absent (mem_map.mpr ⟨peer, old, named⟩)
  · exact other ⟨kind, key ▸ named⟩

theorem changeStep_gone {change : PeerChange} {phase : WireGuardPhase} {event : WireGuardEvent}
    {outcome : Outcome WireGuardPhase} (asked : callChange call = some change)
    (stepped : ChangeStep change interface phase event after outcome)
    (left : ∀ kernel, event.leftKernel = some kernel →
      kernelKeys kernel ⊆ peerKeys interface.record) (fits : Fits interface call phase)
    (other : ¬ (change.operationKind = .provisionDevice ∧ change.publicKey = publicKey))
    (unrecorded : publicKey ∉ peerKeys interface.record)
    (unserved : publicKey ∉ kernelKeys interface.kernel) :
    publicKey ∉ peerKeys after.record ∧ publicKey ∉ kernelKeys after.kernel := by
  cases stepped with
  | keyDerived | keyFailed | taken => exact ⟨unrecorded, unserved⟩
  | applied current peers written =>
    rw [fits.2.2 change asked] at written
    cases written
    rw [← fits.1] at unrecorded
    have lacks := desired_lacks other unrecorded
    exact ⟨fits.1 ▸ unrecorded, by rw [kernelKeys_syncconf]; exact lacks⟩
  | promoted current peers written =>
    rw [(fits.2 change asked).1] at written
    cases written
    rw [← fits.1] at unrecorded
    exact ⟨desired_lacks other unrecorded, unserved⟩
  | failed current kernel within =>
    refine ⟨unrecorded, ?_⟩
    intro member
    obtain ⟨peer, present, named⟩ := mem_map.mp member
    have origin := all_eq_true.mp within peer present
    rw [fits.2.2 change asked, named, fits.1] at origin
    have lacks := desired_lacks other unrecorded
    simp [unserved, lacks] at origin
  | rolledBack current peers written =>
    rw [show interface.candidate = _ from fits] at written
    cases written
    exact ⟨unrecorded, by rw [kernelKeys_syncconf]; exact unrecorded⟩
  | givenUp _ _ kernel gives =>
    exact ⟨unrecorded, fun member => unrecorded (left kernel gives member)⟩

theorem start_keeps (change : PeerChange) :
    (change.start interface).1.record = interface.record ∧
      (change.start interface).1.kernel = interface.kernel := by
  unfold PeerChange.start
  repeat' split
  all_goals exact ⟨rfl, rfl⟩

end

section

variable {world : World} (next : World)

theorem step_peerGone {event : WorldEvent} {serverId : Uuid} {publicKey : PublicKey}
    (careful : carefulWithPeers world event = true) (taken : world.step event = some next)
    (tracked : PeersTracked world) (apart : ∀ provision ∈ world.provisions,
      ¬ (provision.serverId = serverId ∧ provision.identity = .peer publicKey))
    (gone : peerGone (world.agents serverId) (.peer publicKey)) :
    peerGone (next.agents serverId) (.peer publicKey) := by
  cases step_agent world next taken with
  | kept same =>
    rw [same]
    exact gone
  | accepted envelope readable outcome accepted =>
    have accepts := accepts_of_accept accepted
    generalize envelope.call = call at accepts
    generalize next.agents serverId = agent at accepts
    cases accepts with
    | starts request change _ =>
      obtain ⟨record, kernel⟩ := start_keeps (world.agents serverId).interface change
      simpa only [peerGone, record, kernel] using gone
    | _ => exact gone
  | driven task driverEvent job agent outcome happened first own stepped at_agent =>
    rw [at_agent.here]
    simp only [peerGone, settled_interface]
    have present := mem_of_find?_eq_some first
    have named : job.envelope.task = task := by simpa using find?_some first
    obtain ⟨envelope, phase⟩ := job
    subst own
    have drives := drives_of_drive stepped
    generalize called : envelope.call = call at drives
    cases drives with
    | changes request change wireguard wireguardEvent after outcome asked changes =>
      have fits := fits_of_tracked tracked present
      rw [called] at fits
      refine changeStep_gone _ after _ asked changes ?_ fits ?_ gone.1 gone.2
      · intro kernel left
        rw [happened] at careful
        simp only [carefulWithPeers, all_eq_true] at careful
        have clean := careful _ present
        simpa [show envelope.task = task from named, left] using clean
      · rintro ⟨provides, same⟩
        obtain ⟨_, address, operates, runtime, kind⟩ := callChange_spec asked
        cases operates
        have provision := provision_of_call
          (underWay_of_job world ⟨envelope, .wireguard wireguard⟩ present) called
          (kind.symm.trans provides)
        refine apart _ provision ⟨rfl, ?_⟩
        simp [requestFlow, runtime, Runtime.identity, same]
    | serves | probes => exact gone
  | shifted shift =>
    generalize next.agents serverId = agent at shift
    cases shift with
    | restarted _ entries kernel _ =>
      have clean : kernelKeys kernel ⊆ peerKeys (world.agents serverId).interface.record :=
        of_decide_eq_true careful
      exact ⟨gone.1, fun member => gone.1 (clean member)⟩
    | interfaceEdited _ kernel =>
      have fewer : kernelKeys kernel ⊆ kernelKeys (world.agents serverId).interface.kernel :=
        of_decide_eq_true careful
      exact ⟨gone.1, fun member => gone.2 (fewer member)⟩
    | resynced | servedEdited => exact gone

theorem produced_peerUnseen (tracked : PeersTracked world) {envelope : Envelope} {targetId : Uuid}
    {generation : Nat} {runtime : Runtime} {code : Option ProfileCode} {observed : Option Nat}
    {agent : AgentState} (called : envelope.call = .reconcile targetId generation runtime code)
    (kind : runtime.kind = .wireguardPeer)
    (produced : Produced world envelope (.observed .driftDetected observed) agent) :
    peerPresent agent runtime.identity = false := by
  cases produced with
  | delivered readable _ member accepted =>
    rw [called] at accepted
    generalize outcomeOf : Outcome.answers (AgentAnswer.observed .driftDetected observed) =
      outcome at accepted
    cases accepts_of_accept accepted with
    | rejects | shows => cases outcomeOf
    | compares => cases kind
  | driven phase driverEvent stepped member driven =>
    rw [called] at driven
    generalize outcomeOf : Outcome.answers (AgentAnswer.observed .driftDetected observed) =
      outcome at driven
    cases drives_of_drive driven with
    | probes _ _ publicKey address _ wireguard wireguardEvent outcome probes =>
      have fits := fits_of_tracked tracked member
      rw [called] at fits ⊢
      have drifted : outcome = .answers (.observed .driftDetected observed) := by
        cases outcome with
        | goesOn => cases outcomeOf
        | answers answer =>
          cases outcomeOf
          rfl
      rw [drifted] at probes
      obtain ⟨live, reached, lacks⟩ := probeStep_drift probes
      subst reached
      have absent : publicKey ∉
          kernelKeys (world.agents envelope.serverId).interface.kernel := by
        rcases lacks with dumped | unrecorded
        · exact fits.2 dumped publicKey rfl
        intro present
        obtain ⟨recorded, kept, named⟩ := mem_map.mp (fits.1 present)
        obtain ⟨peer, found⟩ := lookup_isSome_of_mem publicKey _ kept named
        cases unrecorded.symm.trans found
      simpa [peerPresent, Runtime.identity, AgentState.recordCall] using absent

end

def wireguardDriver : DriverContract where
  kind := .wireguardPeer
  careful := carefulWithPeers
  tracks := PeersTracked
  gone := peerGone
  absent := fun agent identity _ => peerPresent agent identity = false
  tracks_step := step_peersTracked
  gone_step := by
    intro world event next serverId identity careful taken tracked kind apart gone
    cases identity with
    | peer publicKey =>
      exact step_peerGone next careful taken tracked apart gone
    | client clientUuid => cases kind
  removed := by
    intro world envelope request phase event agent generation tracked member called removes kind
      driven
    have gone : peerGone agent request.runtime.identity := by
      rw [called] at driven
      generalize outcomeOf : Outcome.answers (AgentAnswer.applied generation) = outcome at driven
      cases drives_of_drive driven with
      | changes _ change wireguard wireguardEvent after outcome asked changes =>
        have fits := fits_of_tracked tracked member
        rw [called] at fits
        obtain ⟨_, address, same, runtime, changeKind⟩ := callChange_spec asked
        cases same
        cases changes with
        | promoted current peers written =>
          obtain ⟨candidate, synced⟩ := fits.2 change asked
          rw [candidate] at written
          cases written
          have lacks : change.publicKey ∉ peerKeys (change.desired current) := by
            intro member
            obtain ⟨peer, kept, named⟩ := List.mem_map.mp member
            simp only [PeerChange.desired, (changeKind.trans removes)] at kept
            exact ((mem_remove _).mp kept).2 named
          rw [runtime]
          exact ⟨lacks, fun member => lacks (synced member)⟩
        | _ => cases outcomeOf
      | serves _ change xray xrayEvent files outcome asked _ =>
        obtain ⟨_, same, runtime, _⟩ := callClientChange_spec asked
        cases same
        rw [runtime] at kind
        cases kind
    rw [called]
    cases identity : request.runtime.identity with
    | peer | client =>
      rw [identity] at gone
      exact gone
  unseen := by
    intro world envelope targetId generation runtime code observed agent tracked called kind
      produced
    exact produced_peerUnseen tracked called kind produced
  gone_absent := by
    intro agent identity code kind gone
    cases identity with
    | peer publicKey => simpa [peerPresent] using gone.2
    | client clientUuid => cases kind

/-! ## Rows written `revoked` -/

/-- When the answer behind a write of `revoked` was produced, the peer was gone from its interface,
and no provision of its key was unfinished then or is now. -/
def PeersReallyGone (world : World) (event : WorldEvent) (next : World) : Prop :=
  ∀ row ∈ revokedRows .wireguardPeer world next,
    ∃ shown ∈ world.answerBehind event, shown.serverId = row.serverId ∧
      peerPresent shown.agent row.identity = false ∧
      ∀ provision ∈ shown.provisions ++ world.provisions, ¬ provision.ofCredential row
  deriving Decidable

/-- With no peer at an interface that its record lacks: if conflicting calls keep apart and the run
is `carefulWithPeers`, a peer row written `revoked` is really gone. -/
theorem revoked_peers_gone (start : World) (events : List WorldEvent) (rest : AtRest start)
    (within : ∀ serverId, Within (start.agents serverId).interface)
    (meets : RunMeets World.step (fun world event =>
      keepsApart world event = true ∧ carefulWithPeers world event = true) events start) :
    EachStep World.step PeersReallyGone events start := by
  refine eachStep_revoked wireguardDriver ?_ rest
    (fun serverId => .free (fun job member => by rw [rest.jobs] at member; cases member)
      (within serverId)) meets
  intro world event next behind row settled
  obtain ⟨shown, answered, shows, apart⟩ := behind row settled
  exact ⟨shown, answered, shows.server, shows.absent, unfinished_of_apart shows.apart apart⟩

def removedByRecovery : List WorldEvent :=
  peerProvisioned ++ [.receive 0, .plane (.finalize 0 11),
    .plane (.disconnect ⟨1, 2, 30, none⟩ true 12), .deliver 1 true,
    .drive 1 (.wireguard .syncApplied), .drive 1 (.wireguard .syncSucceeded), .giveUp 1 false,
    .plane (.passBegin ⟨.wireguardPeer, true, none⟩ 13), .plane (.passRead 2 10),
    .plane (.rowStart 3), .deliver 3 true, .drive 3 (.wireguard .dumped),
    .drive 3 (.wireguard .compared), .receive 3, .plane (.recover 3 14)]

theorem revoked_peers_gone_removedByRecovery :
    RunMeets World.step (fun world event =>
        keepsApart world event = true ∧ carefulWithPeers world event = true)
        removedByRecovery smallFleet ∧
      ((runEvents World.step removedByRecovery smallFleet).any fun final =>
        final.plane.tables.rows.any fun row => row.state == .revoked) = true ∧
      EachStep World.step PeersReallyGone removedByRecovery smallFleet :=
  ⟨by decide +kernel, by decide +kernel,
    revoked_peers_gone smallFleet removedByRecovery atRest_smallFleet
      (fun _ => nil_subset _) (by decide +kernel)⟩

/-- A connect's answer is given up on. A pass is told that the peer is in sync; before it recovers
the row the device is revoked. -/
def revokedBeforeRecovery : List WorldEvent :=
  peerProvisioned ++ [.giveUp 0 false, .plane (.passBegin ⟨.wireguardPeer, true, none⟩ 11),
    .plane (.passRead 1 10), .plane (.rowStart 2), .deliver 2 true, .drive 2 (.wireguard .dumped),
    .drive 2 (.wireguard .compared), .receive 2, .plane (.revokeDevice 2 12)]

theorem peer_present_revokedBeforeRecovery :
    ¬ EachStep World.step PeersReallyGone
      (revokedBeforeRecovery ++ [.plane (.recover 2 13)]) smallFleet :=
  not_eachStep World.step
    (by decide +kernel)

end Nebula.Fleet
