import Nebula.Agent.Prune
import Nebula.Fleet.Locking

/-!
# Provisions that were applied

When a driver says that it applied a provision, the agent holds the credential: a peer is recorded
and at the interface, a client is recorded and in its engine's file. For Xray the lock sees to it;
the WireGuard driver needs that no other change is handled meanwhile.
-/

namespace Nebula.Fleet

open Schema Store ControlPlane Agent List

structure Holding where
  serverId : Uuid
  identity : Identity
  code : Option ProfileCode
  deriving DecidableEq

def AgentState.holds (agent : AgentState) (identity : Identity) (code : Option ProfileCode) :
    Bool :=
  match identity, code with
  | .peer publicKey, _ =>
    (peerKeys agent.interface.record).contains publicKey &&
      (kernelKeys agent.interface.kernel).contains publicKey
  | .client clientUuid, some code =>
    (clientPairs agent.files.record).contains (code, clientUuid) &&
      (agent.files.servedClients code).contains clientUuid
  | .client _, none => false

def World.holds (world : World) (holding : Holding) : Bool :=
  AgentState.holds (world.agents holding.serverId) holding.identity holding.code

def requestHolding (serverId : Uuid) (request : AgentRequest) : Holding :=
  ⟨serverId, request.runtime.identity, request.profileCode⟩

def World.appliedBy (world : World) : WorldEvent → Option (Uuid × AgentRequest)
  | .drive task event =>
    (world.jobs.find? fun job => job.envelope.task == task).bind fun job =>
      match job.envelope.call,
        (world.agents job.envelope.serverId).drive job.envelope.call job.phase event with
      | .operate request, some (_, .answers (.applied _)) =>
        some (job.envelope.serverId, request)
      | _, _ => none
  | _ => none

def World.provides (world : World) (event : WorldEvent) (holding : Holding) : Prop :=
  ∃ request, world.appliedBy event = some (holding.serverId, request) ∧
    request.operationKind = .provisionDevice ∧ requestHolding holding.serverId request = holding

def Syncs (interface : Interface) (call : AgentCall) : WireGuardPhase → Prop
  | .syncing current => ∀ change, callChange call = some change →
      interface.candidate = some (change.desired current)
  | .synced current => ∀ change, callChange call = some change →
      interface.candidate = some (change.desired current) ∧
        kernelKeys interface.kernel = peerKeys (change.desired current)
  | _ => True

section

variable (interface after : Interface) (call : AgentCall) (change : PeerChange)
variable (asked : callChange call = some change)
include asked

theorem start_syncs (phase : WireGuardPhase) :
    (change.start interface).2 = .goesOn phase → Syncs (change.start interface).1 call phase := by
  have begins : (change.beginApply interface interface.record).2 = .goesOn phase →
      Syncs (change.beginApply interface interface.record).1 call phase := by
    intro goesOn
    cases goesOn
    intro other same
    rw [asked] at same
    cases same
    rfl
  unfold PeerChange.start
  split
  · split
    · nofun
    split
    · exact begins
    · intro goesOn
      cases goesOn
      trivial
  · exact begins

end

def Serves (files : XrayFiles) (change : ClientChange) : XrayPhase → Prop
  | .validating _ => files.settings.serves change.protocolProfileCode = true
  | .applying current =>
    files.settings.serves change.protocolProfileCode = true ∧
      files.xrayConfig = files.settings.renderXray (change.desired current)
  | .applyingHysteria current =>
    files.settings.serves change.protocolProfileCode = true ∧
      files.xrayConfig = files.settings.renderXray (change.desired current) ∧
      ∀ code, files.settings.hysteriaProfile = some code →
        files.hysteriaConfig = files.settings.renderHysteria code (change.desired current)
  | .kicking => change.operationKind = .provisionDevice →
      (change.protocolProfileCode, change.clientUuid) ∈ clientPairs files.record ∧
        change.clientUuid ∈ files.servedClients change.protocolProfileCode
  | .locking | .rollingBack _ | .rollingBackHysteria _ => True

theorem hysteriaWrite_renders (files : XrayFiles) (clients : Clients)
    {code : ProfileCode} (profile : files.settings.hysteriaProfile = some code) :
    (∀ config, files.hysteriaWrite clients = some config →
        config = files.settings.renderHysteria code clients) ∧
      (files.hysteriaWrite clients = none →
        files.hysteriaConfig = files.settings.renderHysteria code clients) := by
  unfold XrayFiles.hysteriaWrite
  rw [profile]
  dsimp only
  split
  · rename_i same
    exact ⟨nofun, fun _ => same⟩
  refine ⟨?_, nofun⟩
  intro config written
  cases written
  rfl

theorem serves_keptByChange : KeptByChange Serves where
  waiting _ _ := trivial
  stepped change files after phase event outcome following stepped serves goesOn := by
    -- Promoting makes the rendered clients the record.
    have promotes : ∀ current, files.settings.serves change.protocolProfileCode = true →
        files.xrayConfig = files.settings.renderXray (change.desired current) →
        (∀ code, files.settings.hysteriaProfile = some code →
          files.hysteriaConfig = files.settings.renderHysteria code (change.desired current)) →
        Serves { files with record := change.desired current } change .kicking := by
      intro current known xray hysteria provides
      have listed : (change.protocolProfileCode, change.clientUuid) ∈ clientPairs (change.desired
          current) := by
        unfold ClientChange.desired
        rw [provides]
        exact mem_map.mpr ⟨_, (mem_upsert _).mpr (Or.inr rfl), rfl⟩
      refine ⟨listed, ?_⟩
      unfold XrayFiles.servedClients
      split
      · rename_i profile
        have recorded := mem_clientPairs.mp listed
        simp only [XrayFiles.liveHysteria, hysteria _ profile]
        cases live : files.settings.liveClientUpdates with
        | true | false => simpa [XraySettings.renderHysteria, live] using recorded
      · rename_i other
        have inbound : change.protocolProfileCode ∈ files.settings.inbounds := by
          simpa [XraySettings.serves, other] using known
        simp only [XrayFiles.liveClients, xray]
        refine mem_map.mpr ⟨(change.protocolProfileCode, change.clientUuid),
          mem_filter.mpr ⟨?_, by simp⟩, rfl⟩
        exact mem_renderXray_of_pair inbound listed
    cases stepped with
    | locked known =>
      cases goesOn
      exact known
    | written current =>
      cases goesOn
      exact ⟨serves, rfl⟩
    | writtenHysteria current config differs =>
      cases goesOn
      refine ⟨serves.1, serves.2, ?_⟩
      intro code profile
      exact (hysteriaWrite_renders files _ profile).1 config differs
    | promoted current same =>
      cases goesOn
      refine promotes current serves.1 serves.2 ?_
      intro code profile
      exact (hysteriaWrite_renders files _ profile).2 same
    | promotedHysteria current =>
      cases goesOn
      exact promotes current serves.1 serves.2.1 serves.2.2
    | rolledBack | rolledBackHysteria =>
      cases goesOn
      trivial
    | kicked | ended => cases goesOn

def Job.changesPeer (job : Job) : Bool :=
  match job.phase, job.envelope.call with
  | .wireguard _, .operate _ => true
  | _, _ => false

def AgentCall.changesPeer : AgentCall → Bool
  | .operate request => request.runtime.kind == .wireguardPeer
  | .reconcile _ _ _ _ => false

/-- A WireGuard driver gets a peer change only while it makes no other, and its work is not edited
from outside. -/
def handlesAlone (world : World) : WorldEvent → Bool
  | .deliver task _ =>
    world.net.all fun envelope =>
      !(envelope.task == task && AgentCall.changesPeer envelope.call) ||
        decide (world.FreeOf Job.changesPeer envelope.serverId)
  | .editInterface serverId _ => decide (world.FreeOf Job.changesPeer serverId)
  | .editServed serverId _ _ => !world.lockHeld serverId
  | _ => true

def syncRule : Discipline where
  concerns := Job.changesPeer
  fits agent job :=
    match job.phase with
    | .wireguard phase => Syncs agent.interface job.envelope.call phase
    | .xray _ => False
  rests _ := True

structure Undisturbed (world : World) : Prop where
  peers : ∀ serverId, Kept syncRule world serverId
  clients : ∀ serverId, Kept (lockRule Serves) world serverId

section

variable {world next : World}

variable {envelope : Envelope} {request : AgentRequest} {agent : AgentState}
  {outcome : Outcome Phase} {event : DriverEvent}

theorem syncBears_of_interface {world : World} {serverId : Uuid} {agent : AgentState}
    (same : agent.interface = (world.agents serverId).interface) :
    Bears syncRule world serverId agent := by
  refine ⟨?_, id⟩
  intro job _ _ _ fits
  simpa only [syncRule, same] using fits

theorem proper_of_syncs {world : World} {agent : AgentState} {others : List Job}
    {outcome : Outcome WireGuardPhase} (call : envelope.call = .operate request)
    (none : ∀ job ∈ others, job.changesPeer = true → job.envelope.serverId ≠ envelope.serverId)
    (syncs : ∀ phase, outcome = .goesOn phase → Syncs agent.interface envelope.call phase) :
    Proper syncRule world envelope agent others (wireguardOutcome outcome) := by
  refine .alone none ?_ (fun _ _ => trivial)
  intro phase same
  cases outcome with
  | goesOn wireguard =>
    cases same
    exact ⟨by simp [syncRule, Job.changesPeer, call], syncs wireguard rfl⟩
  | answers answer => cases same

theorem accepts_syncs {readable : Bool}
    (accepts : Accepts (world.agents envelope.serverId) readable envelope.call agent outcome)
    (alone : AgentCall.changesPeer envelope.call = true →
      world.FreeOf Job.changesPeer envelope.serverId) :
    Proper syncRule world envelope agent world.jobs outcome := by
  have beside : agent.interface = (world.agents envelope.serverId).interface →
      (∀ phase, outcome = .goesOn phase → Job.changesPeer ⟨envelope, phase⟩ = false) →
      Proper syncRule world envelope agent world.jobs outcome := by
    intro interface unconcerned
    exact .beside unconcerned (fun _ member _ => member) (syncBears_of_interface interface)
  have answered : ∀ answer phase, Outcome.answers answer = .goesOn phase →
      Job.changesPeer ⟨envelope, phase⟩ = false := by
    intro answer phase same
    cases same
  generalize called : envelope.call = call at accepts alone
  cases accepts with
  | starts request change asked =>
    obtain ⟨_, address, same, runtime, _⟩ := callChange_spec asked
    cases same
    refine proper_of_syncs called ?_ ?_
    · exact alone (by simp [AgentCall.changesPeer, runtime, Runtime.kind])
    · rw [called]
      exact start_syncs _ _ change asked
  | shows =>
    refine beside rfl ?_
    intro phase _
    cases phase <;> simp [Job.changesPeer, called]
  | locks =>
    refine beside rfl ?_
    intro phase same
    cases same
    rfl
  | replays _ answer _ => exact beside rfl (answered answer)
  | rejects => exact beside rfl (answered .rejected)
  | compares => exact beside rfl (answered _)

theorem drives_syncs (kept : ∀ serverId, Kept syncRule world serverId) {phase : Phase}
    (member : ⟨envelope, phase⟩ ∈ world.jobs)
    (drives : Drives (world.agents envelope.serverId) envelope.call phase event agent outcome) :
    Proper syncRule world envelope (agent.settled envelope.call outcome)
      (world.jobs.filter fun other => other != ⟨envelope, phase⟩) outcome := by
  have stay : Job.changesPeer ⟨envelope, phase⟩ = false → ∀ job ∈ world.jobs,
      job.changesPeer = true →
      job ∈ world.jobs.filter fun other => other != ⟨envelope, phase⟩ := by
    intro idle job present concerned
    refine mem_filter.mpr ⟨present, ?_⟩
    have other : job ≠ ⟨envelope, phase⟩ := by
      intro same
      rw [same, idle] at concerned
      cases concerned
    simpa using other
  generalize called : envelope.call = call at drives
  cases drives with
  | changes request change wireguard wireguardEvent after outcome asked stepped =>
    obtain ⟨syncs, alone⟩ := fits_of_kept (kept _) member
      (by simp [syncRule, Job.changesPeer, called]) rfl
    refine proper_of_syncs called ?_ ?_
    · intro job present concerned own
      obtain ⟨old, different⟩ := mem_filter.mp present
      simp [alone job old concerned own] at different
    intro following goesOn
    rw [called]
    change Syncs _ envelope.call _ at syncs
    rw [called] at syncs
    cases stepped with
    | keyDerived current =>
      cases goesOn
      intro other same
      rw [asked] at same
      cases same
      rfl
    | applied current peers written =>
      cases goesOn
      intro other same
      have candidate := syncs other same
      refine ⟨candidate, ?_⟩
      rw [written] at candidate
      cases candidate
      exact kernelKeys_syncconf _
    | failed =>
      cases goesOn
      trivial
    | _ => cases goesOn
  | probes =>
    refine .beside ?_ (stay ?_) (syncBears_of_interface (settled_interface _))
    · intro following _
      change Job.changesPeer _ = false
      cases following <;> simp [Job.changesPeer, called]
    · simp [Job.changesPeer, called]
  | serves request change xray xrayEvent files outcome _ _ =>
    refine .beside ?_ (stay rfl) (syncBears_of_interface (settled_interface _))
    intro following same
    cases outcome with
    | goesOn xray =>
      cases same
      rfl
    | answers answer => cases same

theorem step_undisturbed {event : WorldEvent} (taken : world.step event = some next)
    (alone : handlesAlone world event = true) (undisturbed : Undisturbed world) :
    Undisturbed next where
  peers := by
    refine step_kept syncRule world next event taken ?_ ?_ ?_ ?_ undisturbed.peers
    · intro envelope readable agent outcome happened present accepts
      refine accepts_syncs accepts ?_
      intro changes
      rw [happened] at alone
      simp only [handlesAlone, all_eq_true] at alone
      simpa [changes] using alone envelope present
    · intro job driverEvent agent outcome _ present _ drives
      exact drives_syncs undisturbed.peers present drives
    · intro _ _ _ _ _ _
      trivial
    · intro serverId agent shift running
      cases shift with
      | restarted _ entries kernel => exact absurd rfl (running entries kernel)
      | resynced | servedEdited => exact syncBears_of_interface rfl
      | interfaceEdited =>
        have free : world.FreeOf Job.changesPeer serverId := of_decide_eq_true alone
        refine ⟨?_, id⟩
        intro job member concerned server
        exact absurd server (free job member concerned)
  clients := by
    refine step_lockKept next undisturbed.clients serves_keptByChange taken ?_
    intro serverId xrayConfig hysteriaConfig happened
    subst happened
    exact bears_of_unlocked Serves _ (by simpa [handlesAlone] using alone)

theorem drives_holds (undisturbed : Undisturbed world) {job : Job} {generation : Nat}
    (member : job ∈ world.jobs) (call : job.envelope.call = .operate request)
    (provides : request.operationKind = .provisionDevice)
    (drives : Drives (world.agents job.envelope.serverId) job.envelope.call job.phase event agent
      (.answers (.applied generation))) :
    agent.holds request.runtime.identity request.profileCode = true := by
  obtain ⟨envelope, phase⟩ := job
  dsimp only at call drives
  rw [call] at drives
  generalize answered : Outcome.answers (AgentAnswer.applied generation) = outcome at drives
  cases drives with
  | changes _ change wireguard wireguardEvent after outcome asked stepped =>
    obtain ⟨_, address, same, runtime, kind⟩ := callChange_spec asked
    cases same
    cases outcome with
    | goesOn following => cases answered
    | answers answer =>
      cases answered
      have syncs : Syncs _ envelope.call _ := (fits_of_kept (undisturbed.peers _)
        member (by simp [syncRule, Job.changesPeer, call]) rfl).1
      rw [call] at syncs
      obtain ⟨recorded, present⟩ : change.publicKey ∈ peerKeys after.record ∧ change.publicKey ∈
          kernelKeys after.kernel := by
        -- A provision that is promoted is in the record and at the interface.
        generalize answered : Outcome.answers (AgentAnswer.applied generation) = outcome at stepped
        cases stepped with
        | promoted current peers written =>
          obtain ⟨candidate, kernel⟩ := syncs change asked
          rw [written] at candidate
          cases candidate
          have listed : change.publicKey ∈ peerKeys (change.desired current) := by
            unfold PeerChange.desired
            rw [(kind.trans provides)]
            exact mem_map.mpr ⟨_, (mem_upsert _).mpr (Or.inr rfl), rfl⟩
          exact ⟨listed, by rw [kernel]; exact listed⟩
        | _ => cases answered
      simp [AgentState.holds, runtime, Runtime.identity, recorded, present]
  | serves _ change xray xrayEvent files outcome asked stepped =>
    obtain ⟨_, same, runtime, kind, code⟩ := callClientChange_spec asked
    cases same
    have serves := stands_of_kept undisturbed.clients serves_keptByChange
      member (by rw [call]; exact asked)
    cases stepped with
    | kicked =>
      obtain ⟨recorded, served⟩ := serves (kind.trans provides)
      simp [AgentState.holds, runtime, Runtime.identity, code, recorded, served]
    | ended _ _ answer unapplied =>
      cases answered
      exact absurd rfl (unapplied generation)
    | _ => cases answered

theorem step_provides (undisturbed : Undisturbed world) {event : WorldEvent}
    (taken : world.step event = some next) {holding : Holding}
    (provides : world.provides event holding) : next.holds holding = true := by
  obtain ⟨request, applied, kind, same⟩ := provides
  cases event with
  | drive task driverEvent =>
    obtain ⟨job, found, answered⟩ := Option.bind_eq_some_iff.mp applied
    split at answered
    swap
    · cases answered
    rename_i asked agent generation call driven
    obtain ⟨server, rfl⟩ := Prod.mk.inj (Option.some.inj answered)
    have agents : next.agents holding.serverId =
        agent.recordCall (.operate asked) (.applied generation) := by
      have stepped : world.drive job driverEvent = some next := by
        simpa [World.step, found] using taken
      rw [← server, ← call]
      unfold World.drive at stepped
      rw [driven] at stepped
      split at stepped <;> cases stepped
      exact if_pos rfl
    have held := drives_holds undisturbed
      (mem_of_find?_eq_some found) call kind (drives_of_drive driven)
    unfold World.holds
    rw [agents, ← same]
    exact held
  | _ => cases applied

end

end Nebula.Fleet
