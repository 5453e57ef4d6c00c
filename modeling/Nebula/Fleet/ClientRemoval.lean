import Nebula.Fleet.Locking
import Nebula.Fleet.Removal

/-!
# Clients written `revoked`

The Xray driver has a lock, so its requests may reach it in any order.
-/

namespace Nebula.Fleet

open Schema Store Runs ControlPlane Agent

def Holds (files : XrayFiles) (change : ClientChange) : XrayPhase → Prop
  | .validating current => current = files.record
  | .applying current =>
    current = files.record ∧
      (change.operationKind = .revokeDevice → files.XrayLacks change.clientUuid)
  | .applyingHysteria current =>
    current = files.record ∧
      (change.operationKind = .revokeDevice →
        files.XrayLacks change.clientUuid ∧ files.HysteriaLacks change.clientUuid)
  | .kicking => change.operationKind = .revokeDevice → files.Lacks change.clientUuid
  | .locking | .rollingBack _ | .rollingBackHysteria _ => True

section

variable {change : ClientChange} (files after : XrayFiles) (phase : XrayPhase)
variable {event : XrayEvent} {outcome : Outcome XrayPhase}

theorem clientStep_holds (stepped : ClientStep change files phase event after outcome)
    (holds : Holds files change phase) {following : XrayPhase}
    (goesOn : outcome = .goesOn following) : Holds after change following := by
  have removes : ∀ current, change.operationKind = .revokeDevice →
      Unlisted (change.desired current) change.clientUuid := by
    intro current revokes client member
    simp only [ClientChange.desired, revokes] at member
    exact ((mem_remove _).mp member).2
  cases stepped with
  | locked =>
    cases goesOn
    rfl
  | written current =>
    cases goesOn
    refine ⟨holds, ?_⟩
    intro revokes
    exact writeXray_lacks files (removes current revokes)
  | writtenHysteria current config differs =>
    cases goesOn
    refine ⟨holds.1, ?_⟩
    intro revokes
    refine ⟨holds.2 revokes, ?_⟩
    intro _
    exact (hysteriaWrite_lacks (removes current revokes)).1 config differs
  | promoted current served =>
    cases goesOn
    intro revokes
    exact ⟨removes current revokes, holds.2 revokes,
      (hysteriaWrite_lacks (removes current revokes)).2 served⟩
  | promotedHysteria current =>
    cases goesOn
    intro revokes
    obtain ⟨xray, hysteria⟩ := holds.2 revokes
    exact ⟨removes current revokes, xray, hysteria⟩
  | rolledBack | rolledBackHysteria =>
    cases goesOn
    trivial
  | kicked => cases goesOn
  | ended => cases goesOn

theorem clientStep_lacks {clientUuid : Uuid}
    (stepped : ClientStep change files phase event after outcome)
    (holds : Holds files change phase)
    (other : ¬ (change.operationKind = .provisionDevice ∧ change.clientUuid = clientUuid))
    (lacks : files.Lacks clientUuid) : after.Lacks clientUuid := by
  have unlisted : ∀ current, current = files.record →
      Unlisted (change.desired current) clientUuid := by
    intro current same
    rw [same]
    intro client member named
    unfold ClientChange.desired at member
    split at member
    · rename_i provides
      rcases (mem_upsert _).mp member with ⟨old, _⟩ | rfl
      · exact lacks.record client old named
      · exact other ⟨provides, named⟩
    · exact lacks.record client ((mem_remove _).mp member).1 named
  cases stepped with
  | locked | kicked | ended => exact lacks
  | written current =>
    exact ⟨lacks.record, writeXray_lacks files (unlisted current holds), lacks.hysteria⟩
  | writtenHysteria current config differs =>
    refine ⟨lacks.record, lacks.xray, ?_⟩
    intro _
    exact (hysteriaWrite_lacks (unlisted current holds.1)).1 config differs
  | promoted current _ | promotedHysteria current =>
    exact ⟨unlisted current holds.1, lacks.xray, lacks.hysteria⟩
  | rolledBack =>
    exact ⟨lacks.record, writeXray_lacks files lacks.record, lacks.hysteria⟩
  | rolledBackHysteria current config differs =>
    refine ⟨lacks.record, lacks.xray, ?_⟩
    intro _
    exact (hysteriaWrite_lacks lacks.record).1 config differs

end

/-! ## Entries taken away from outside -/

@[mk_iff]
structure Fewer (files : XrayFiles) (xrayConfig : List (ProfileCode × Uuid))
    (hysteriaConfig : HysteriaConfig) : Prop where
  xray : xrayConfig ⊆ files.xrayConfig
  hysteria : hysteriaConfig.users ⊆ files.hysteriaConfig.users

instance (files : XrayFiles) (xrayConfig : List (ProfileCode × Uuid))
    (hysteriaConfig : HysteriaConfig) : Decidable (Fewer files xrayConfig hysteriaConfig) :=
  decidable_of_iff' _ (fewer_iff files xrayConfig hysteriaConfig)

def carefulWithClients (world : World) : WorldEvent → Bool
  | .editServed serverId xrayConfig hysteriaConfig =>
    decide (Fewer (world.agents serverId).files xrayConfig hysteriaConfig)
  | _ => true

section

variable {files : XrayFiles} {xrayConfig : List (ProfileCode × Uuid)}
variable {hysteriaConfig : HysteriaConfig} (fewer : Fewer files xrayConfig hysteriaConfig)
include fewer

variable {clientUuid : Uuid}

theorem xrayLacks_fewer (lacks : files.XrayLacks clientUuid) :
    XrayFiles.XrayLacks
      { files with xrayConfig := xrayConfig, hysteriaConfig := hysteriaConfig } clientUuid := by
  intro entry member
  exact lacks entry (fewer.xray member)

theorem hysteriaLacks_fewer (lacks : files.HysteriaLacks clientUuid) :
    XrayFiles.HysteriaLacks
      { files with xrayConfig := xrayConfig, hysteriaConfig := hysteriaConfig } clientUuid := by
  intro served member
  exact lacks served (fewer.hysteria member)

theorem lacks_fewer (lacks : files.Lacks clientUuid) :
    XrayFiles.Lacks
      { files with xrayConfig := xrayConfig, hysteriaConfig := hysteriaConfig } clientUuid :=
  ⟨lacks.record, xrayLacks_fewer fewer lacks.xray,
    hysteriaLacks_fewer fewer lacks.hysteria⟩

theorem holds_fewer {change : ClientChange} {phase : XrayPhase}
    (holds : Holds files change phase) :
    Holds { files with xrayConfig := xrayConfig, hysteriaConfig := hysteriaConfig } change
      phase := by
  cases phase with
  | validating current => exact holds
  | applying current =>
    refine ⟨holds.1, ?_⟩
    intro revokes
    exact xrayLacks_fewer fewer (holds.2 revokes)
  | applyingHysteria current =>
    refine ⟨holds.1, ?_⟩
    intro revokes
    obtain ⟨xray, hysteria⟩ := holds.2 revokes
    exact ⟨xrayLacks_fewer fewer xray, hysteriaLacks_fewer fewer hysteria⟩
  | kicking =>
    intro revokes
    exact lacks_fewer fewer (holds revokes)
  | locking | rollingBack | rollingBackHysteria => trivial

end

def clientRule : Discipline :=
  lockRule Holds

def ClientsTracked (world : World) : Prop :=
  ∀ serverId, Kept clientRule world serverId

theorem holds_keptByChange : KeptByChange Holds where
  waiting _ _ := trivial
  stepped _ files after phase _ _ _ stepped holds goesOn :=
    clientStep_holds files after phase stepped holds goesOn

theorem step_clientsTracked (world : World) (event : WorldEvent) (next : World)
    (careful : carefulWithClients world event = true) (taken : world.step event = some next)
    (tracked : ClientsTracked world) : ClientsTracked next := by
  refine step_lockKept next tracked holds_keptByChange taken ?_
  intro serverId xrayConfig hysteriaConfig happened
  subst happened
  have fewer : Fewer (world.agents serverId).files xrayConfig hysteriaConfig :=
    of_decide_eq_true careful
  refine ⟨?_, id⟩
  rintro ⟨envelope, phase⟩ _ concerned _ fits
  cases phase with
  | wireguard phase => cases concerned
  | xray phase =>
    intro change asked
    exact holds_fewer fewer (fits change asked)

/-! ## Clients that are gone -/

def clientGone (agent : AgentState) : Identity → Prop
  | .client clientUuid => agent.files.Lacks clientUuid
  | .peer _ => False

def clientPresent (agent : AgentState) (code : ProfileCode) : Identity → Bool
  | .client clientUuid =>
    ((clientsFor agent.files.record code).map RenderedXrayClient.clientUuid).contains
        clientUuid ||
      (agent.files.servedClients code).contains clientUuid
  | .peer _ => false

theorem clientPresent_of_unlisted {agent : AgentState} {code : ProfileCode} {clientUuid : Uuid}
    (unlisted : Unlisted agent.files.record clientUuid)
    (unserved : clientUuid ∉ agent.files.servedClients code) :
    clientPresent agent code (.client clientUuid) = false := by
  have unrecorded : clientUuid ∉
      (clientsFor agent.files.record code).map RenderedXrayClient.clientUuid := by
    intro member
    obtain ⟨client, kept, named⟩ := List.mem_map.mp member
    exact unlisted client (List.mem_filter.mp kept).1 named
  simp only [clientPresent, Bool.or_eq_false_iff]
  exact ⟨by simpa using unrecorded, by simpa using unserved⟩

section

variable {world : World} (next : World)

theorem step_clientGone {event : WorldEvent} {serverId clientUuid : Uuid}
    (careful : carefulWithClients world event = true) (taken : world.step event = some next)
    (tracked : ClientsTracked world) (apart : ∀ provision ∈ world.provisions,
      ¬ (provision.serverId = serverId ∧ provision.identity = .client clientUuid))
    (gone : (world.agents serverId).files.Lacks clientUuid) :
    (next.agents serverId).files.Lacks clientUuid := by
  cases step_agent world next taken with
  | kept same =>
    rw [same]
    exact gone
  | accepted envelope readable outcome accepted =>
    rw [(accepts_files (accepts_of_accept accepted)).1]
    exact gone
  | driven task driverEvent job agent outcome _ first own stepped at_agent =>
    rw [at_agent.here, settled_files]
    have present := List.mem_of_find?_eq_some first
    obtain ⟨envelope, phase⟩ := job
    subst own
    have drives := drives_of_drive stepped
    generalize called : envelope.call = call at drives
    cases drives with
    | changes | probes => exact gone
    | serves request change xray xrayEvent files outcome asked writes =>
      have holds := stands_of_kept tracked holds_keptByChange present (by rw [called]; exact asked)
      refine clientStep_lacks _ files xray writes holds ?_ gone
      rintro ⟨provides, same⟩
      obtain ⟨_, operates, runtime, kind, _⟩ := callClientChange_spec asked
      cases operates
      have provision := provision_of_call
        (underWay_of_job world ⟨envelope, .xray xray⟩ present) called (kind.symm.trans provides)
      refine apart _ provision ⟨rfl, ?_⟩
      simp [requestFlow, runtime, Runtime.identity, same]
  | shifted shift =>
    generalize next.agents serverId = agent at shift
    cases shift with
    | restarted | interfaceEdited => exact gone
    | resynced => exact resync_lacks gone
    | servedEdited _ xrayConfig hysteriaConfig =>
      have fewer : Fewer (world.agents serverId).files xrayConfig hysteriaConfig :=
        of_decide_eq_true careful
      exact lacks_fewer fewer gone

theorem produced_clientUnseen {envelope : Envelope} {targetId : Uuid} {generation : Nat}
    {runtime : Runtime} {code : Option ProfileCode} {observed : Option Nat} {agent : AgentState}
    (called : envelope.call = .reconcile targetId generation runtime code)
    (kind : runtime.kind = .xrayClient)
    (produced : Produced world envelope (.observed .driftDetected observed) agent) :
    ∀ known ∈ code, clientPresent agent known runtime.identity = false := by
  cases produced with
  | delivered readable _ member accepted =>
    rw [called] at accepted
    generalize outcomeOf : Outcome.answers (AgentAnswer.observed .driftDetected observed) =
      outcome at accepted
    cases accepts_of_accept accepted with
    | rejects | shows => cases outcomeOf
    | compares _ _ clientUuid code =>
      obtain ⟨unrecorded, unserved⟩ := reconcileClient_drift (Outcome.answers.inj outcomeOf).symm
      intro known same
      cases same
      refine clientPresent_of_unlisted ?_ unserved
      intro client present named
      obtain ⟨found, looked⟩ := lookup_isSome_of_mem clientUuid _ present named
      cases unrecorded.symm.trans looked
  | driven phase driverEvent stepped member driven =>
    rw [called] at driven
    generalize Outcome.answers (AgentAnswer.observed .driftDetected observed) = outcome at driven
    cases drives_of_drive driven with
    | probes => cases kind

end

def xrayDriver : DriverContract where
  kind := .xrayClient
  careful := carefulWithClients
  tracks := ClientsTracked
  gone := clientGone
  absent := fun agent identity code => ∀ known ∈ code, clientPresent agent known identity = false
  tracks_step := step_clientsTracked
  gone_step := by
    intro world event next serverId identity careful taken tracked kind apart gone
    cases identity with
    | client clientUuid =>
      exact step_clientGone next careful taken tracked apart gone
    | peer publicKey => cases kind
  removed := by
    intro world envelope request phase event agent generation tracked member called removes kind
      driven
    have gone : clientGone agent request.runtime.identity := by
      rw [called] at driven
      generalize outcomeOf : Outcome.answers (AgentAnswer.applied generation) = outcome at driven
      cases drives_of_drive driven with
      | changes _ change wireguard wireguardEvent after outcome asked _ =>
        obtain ⟨_, address, same, runtime, _⟩ := callChange_spec asked
        cases same
        rw [runtime] at kind
        cases kind
      | serves _ change xray xrayEvent files outcome asked stepped =>
        obtain ⟨_, same, runtime, changeKind, _⟩ := callClientChange_spec asked
        cases same
        have holds := stands_of_kept tracked holds_keptByChange member (by rw [called]; exact asked)
        cases stepped with
        | kicked =>
          rw [runtime]
          exact holds (changeKind.trans removes)
        | ended _ _ answer unapplied =>
          cases outcomeOf
          exact absurd rfl (unapplied generation)
        | _ => cases outcomeOf
    rw [called]
    cases identity : request.runtime.identity with
    | client | peer =>
      rw [identity] at gone
      exact gone
  unseen := by
    intro world envelope targetId generation runtime code observed agent _ called kind produced
    exact produced_clientUnseen called kind produced
  gone_absent := by
    intro agent identity code kind gone known _
    cases identity with
    | client clientUuid =>
      exact clientPresent_of_unlisted gone.record (gone.served known)
    | peer publicKey => cases kind

/-! ## Rows written `revoked` -/

/-- When the answer behind a write of `revoked` was produced, the client was neither recorded nor
served under its profile, and no provision of its UUID was unfinished then or is now. -/
def ClientsReallyGone (world : World) (event : WorldEvent) (next : World) : Prop :=
  ∀ row ∈ revokedRows .xrayClient world next,
    ∃ shown ∈ world.answerBehind event, shown.serverId = row.serverId ∧
      (∃ code ∈ agentProfileCode next.plane.tables row,
        clientPresent shown.agent code row.identity = false) ∧
      ∀ provision ∈ shown.provisions ++ world.provisions, ¬ provision.ofCredential row
  deriving Decidable

/-- From any start: if conflicting calls keep apart and edits from outside only take clients away, a
client row written `revoked` is really gone. -/
theorem revoked_clients_gone (start : World) (events : List WorldEvent) (rest : AtRest start)
    (meets : RunMeets World.step (fun world event =>
      keepsApart world event = true ∧ carefulWithClients world event = true) events start) :
    EachStep World.step ClientsReallyGone events start := by
  refine eachStep_revoked xrayDriver ?_ rest
    (fun serverId => .free (fun job member => by rw [rest.jobs] at member; cases member) trivial)
    meets
  intro world event next behind row settled
  obtain ⟨shown, answered, shows, apart⟩ := behind row settled
  obtain ⟨member, kind, _⟩ := mem_revokedRows.mp settled
  obtain ⟨code, known⟩ : ∃ code, agentProfileCode next.plane.tables row = some code := by
    -- A client row has a profile, so there is a name the agent knows it by.
    obtain ⟨profile, present, named⟩ := next.plane.database.consistent.rowProfiles row member
    obtain ⟨found, looked⟩ := lookup_isSome_of_mem row.profileId
        next.plane.tables.profiles
      present named
    refine ⟨found.agentCode, ?_⟩
    simp only [agentProfileCode, kind, Tables.profile, looked, Option.map_some]
  exact ⟨shown, answered, shows.server, ⟨code, known, shows.absent code known⟩,
    unfinished_of_apart shows.apart apart⟩

def clientRemovedByRecovery : List WorldEvent :=
  clientProvisioned ++ [.receive 0, .plane (.finalize 0 11),
    .plane (.disconnect ⟨1, 2, 30, some 50⟩ true 12), .deliver 1 true,
    .drive 1 (.xray .lockAcquired), .drive 1 (.xray .validated), .drive 1 (.xray .applied),
    .giveUp 1 false,
    .plane (.passBegin ⟨.xrayClient, true, none⟩ 13), .plane (.passRead 2 10),
    .plane (.rowStart 3), .deliver 3 true, .receive 3, .plane (.recover 3 14)]

theorem revoked_clients_gone_clientRemovedByRecovery :
    RunMeets World.step (fun world event =>
        keepsApart world event = true ∧ carefulWithClients world event = true)
        clientRemovedByRecovery smallFleet ∧
      ((runEvents World.step clientRemovedByRecovery smallFleet).any fun final =>
        final.plane.tables.rows.any fun row => row.state == .revoked) = true ∧
      EachStep World.step ClientsReallyGone clientRemovedByRecovery smallFleet :=
  ⟨by decide +kernel, by decide +kernel,
    revoked_clients_gone smallFleet clientRemovedByRecovery atRest_smallFleet
      (by decide +kernel)⟩

/-- A connect's answer is given up on. A pass is told that the client is in sync; before it recovers
the row the device is revoked. -/
def clientRevokedBeforeRecovery : List WorldEvent :=
  clientProvisioned ++ [.giveUp 0 false, .plane (.passBegin ⟨.xrayClient, true, none⟩ 11),
    .plane (.passRead 1 10), .plane (.rowStart 2), .deliver 2 true, .receive 2,
    .plane (.revokeDevice 2 12)]

theorem client_present_clientRevokedBeforeRecovery :
    ¬ EachStep World.step ClientsReallyGone
      (clientRevokedBeforeRecovery ++ [.plane (.recover 2 13)]) smallFleet :=
  not_eachStep World.step
    (by decide +kernel)

end Nebula.Fleet
