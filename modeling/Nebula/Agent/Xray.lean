import Nebula.Agent.Ledger

/-!
# The Xray driver

`drivers/xray_config_store.py` and `drivers/xray.py`. One driver serves Xray, with an inbound for
each profile, and Hysteria2, with one profile of its own. `_apply_lock` lets one change at a time
through its awaits; a reconciliation has none and does not wait for the lock.

A served file stands for the clients it lists; neither the rest of it nor the choice between a live
update and a restart changes which clients are served.
-/

namespace Nebula.Agent

open Schema Store ControlPlane List

structure RenderedXrayClient where
  clientUuid : Uuid
  protocolProfileCode : ProfileCode
  generation : Nat
  deriving DecidableEq

abbrev Clients := List RenderedXrayClient

def withClient (clients : Clients) (client : RenderedXrayClient) :
    Clients :=
  upsert RenderedXrayClient.clientUuid client clients

def withoutClient (clients : Clients) (clientUuid : Uuid) :
    Clients :=
  remove RenderedXrayClient.clientUuid clientUuid clients

def clientOf (clients : Clients) (clientUuid : Uuid) :
    Option RenderedXrayClient :=
  lookup RenderedXrayClient.clientUuid clientUuid clients

def clientsFor (clients : Clients) (code : ProfileCode) :
    Clients :=
  clients.filter fun client => client.protocolProfileCode == code

/-! ## The served files -/

structure XraySettings where
  inbounds : List ProfileCode
  hysteriaProfile : Option ProfileCode
  liveClientUpdates : Bool
  deriving DecidableEq

/-- The authentication block: a list of users, or the question asked of `authorize_hysteria`. -/
inductive HysteriaConfig where
  | http
  | userpass (users : List Uuid)
  deriving DecidableEq

structure XrayFiles where
  settings : XraySettings
  record : Clients
  xrayConfig : List (ProfileCode × Uuid)
  hysteriaConfig : HysteriaConfig
  deriving DecidableEq

variable (settings : XraySettings)

def XraySettings.serves (code : ProfileCode) : Bool :=
  settings.hysteriaProfile == some code || settings.inbounds.contains code

def XraySettings.renderXray (clients : Clients) :
    List (ProfileCode × Uuid) :=
  (clients.filter fun client => settings.inbounds.contains client.protocolProfileCode).map
    fun client => (client.protocolProfileCode, client.clientUuid)

def XraySettings.renderHysteria (code : ProfileCode)
    (clients : Clients) : HysteriaConfig :=
  if settings.liveClientUpdates then .http
  else .userpass ((clientsFor clients code).map RenderedXrayClient.clientUuid)

/-! ## Provisioning and revoking -/

structure ClientChange where
  operationKind : OperationKind
  clientUuid : Uuid
  protocolProfileCode : ProfileCode
  desiredGeneration : Nat

def ClientChange.desired (change : ClientChange) (current : Clients) :
    Clients :=
  match change.operationKind with
  | .provisionDevice =>
    withClient current
      ⟨change.clientUuid, change.protocolProfileCode, change.desiredGeneration⟩
  | .revokeDevice => withoutClient current change.clientUuid

def ClientChange.lastAppliedGeneration (change : ClientChange)
    (current : Clients) : Nat :=
  match clientOf current change.clientUuid with
  | none => 0
  | some previous => previous.generation

/-- Where a change waits; from `validating` on it holds the lock and has read the record. -/
inductive XrayPhase where
  | locking
  | validating (current : Clients)
  | applying (current : Clients)
  | applyingHysteria (current : Clients)
  | kicking
  | rollingBack (current : Clients)
  | rollingBackHysteria (current : Clients)
  deriving DecidableEq

def XrayPhase.holdsLock : XrayPhase → Bool
  | .locking => false
  | _ => true

inductive XrayEvent where
  | lockAcquired
  | validated
  | invalid
  | applied
  | applyFailed
  | rollbackFailed
  | kicked
  | timedOut
  deriving DecidableEq

/-- The candidate, which under the lock is this change's own, becomes the record. -/
def ClientChange.promote (change : ClientChange) (files : XrayFiles)
    (current : Clients) : XrayFiles × Outcome XrayPhase :=
  ({ files with record := change.desired current }, .goesOn .kicking)

/-- `_apply_hysteria`: the file to write, unless there is none or it is served already. -/
def XrayFiles.hysteriaWrite (files : XrayFiles) (clients : Clients) :
    Option HysteriaConfig :=
  match files.settings.hysteriaProfile with
  | none => none
  | some code =>
    if files.hysteriaConfig = files.settings.renderHysteria code clients then none
    else some (files.settings.renderHysteria code clients)

def XrayFiles.writeXray (files : XrayFiles) (clients : Clients) : XrayFiles :=
  { files with xrayConfig := files.settings.renderXray clients }

def XrayFiles.beginRollback (files : XrayFiles) (current : Clients) :
    XrayFiles × Outcome XrayPhase :=
  (files.writeXray files.record, .goesOn (.rollingBack current))

/-- `provision_client` and `revoke_client`, `_apply_delta` and `_rollback`, step by step. -/
def ClientChange.step (change : ClientChange) (files : XrayFiles) :
    XrayPhase → XrayEvent → Option (XrayFiles × Outcome XrayPhase)
  | .locking, .lockAcquired =>
    if files.settings.serves change.protocolProfileCode then
      some (files, .goesOn (.validating files.record))
    else some (files, .answers .rejected)
  | .validating current, .validated =>
    some (files.writeXray (change.desired current), .goesOn (.applying current))
  | .validating current, .invalid =>
    some (files, .answers (.failed (change.lastAppliedGeneration current)))
  | .applying current, .applied =>
    match files.hysteriaWrite (change.desired current) with
    | none => some (change.promote files current)
    | some config =>
      some ({ files with hysteriaConfig := config }, .goesOn (.applyingHysteria current))
  | .applying current, .applyFailed => some (files.beginRollback current)
  | .applyingHysteria current, .applied => some (change.promote files current)
  | .applyingHysteria current, .applyFailed => some (files.beginRollback current)
  | .rollingBack current, .applied =>
    match files.hysteriaWrite files.record with
    | none => some (files, .answers (.failed (change.lastAppliedGeneration current)))
    | some config =>
      some ({ files with hysteriaConfig := config }, .goesOn (.rollingBackHysteria current))
  | .rollingBackHysteria current, .applied =>
    some (files, .answers (.failed (change.lastAppliedGeneration current)))
  | .rollingBack _, .rollbackFailed
  | .rollingBackHysteria _, .rollbackFailed => some (files, .answers .rejected)
  | .kicking, .kicked => some (files, .answers (.applied change.desiredGeneration))
  -- A subprocess that times out raises past `except ApplyError`: nothing is rolled back.
  | .validating _, .timedOut
  | .applying _, .timedOut
  | .applyingHysteria _, .timedOut
  | .rollingBack _, .timedOut
  | .rollingBackHysteria _, .timedOut => some (files, .answers .rejected)
  | _, _ => none

inductive ClientStep (change : ClientChange) (files : XrayFiles) :
    XrayPhase → XrayEvent → XrayFiles → Outcome XrayPhase → Prop
  | locked (serves : files.settings.serves change.protocolProfileCode = true) :
    ClientStep change files .locking .lockAcquired files (.goesOn (.validating files.record))
  | written (current : Clients) :
    ClientStep change files (.validating current) .validated
      (files.writeXray (change.desired current)) (.goesOn (.applying current))
  | writtenHysteria (current : Clients) (config : HysteriaConfig)
    (differs : files.hysteriaWrite (change.desired current) = some config) :
    ClientStep change files (.applying current) .applied
      { files with hysteriaConfig := config } (.goesOn (.applyingHysteria current))
  | promoted (current : Clients)
    (served : files.hysteriaWrite (change.desired current) = none) :
    ClientStep change files (.applying current) .applied
      { files with record := change.desired current } (.goesOn .kicking)
  | promotedHysteria (current : Clients) :
    ClientStep change files (.applyingHysteria current) .applied
      { files with record := change.desired current } (.goesOn .kicking)
  | rolledBack (current : Clients) (phase : XrayPhase)
    (applying : phase = .applying current ∨ phase = .applyingHysteria current) :
    ClientStep change files phase .applyFailed (files.writeXray files.record)
      (.goesOn (.rollingBack current))
  | rolledBackHysteria (current : Clients) (config : HysteriaConfig)
    (differs : files.hysteriaWrite files.record = some config) :
    ClientStep change files (.rollingBack current) .applied
      { files with hysteriaConfig := config } (.goesOn (.rollingBackHysteria current))
  | kicked :
    ClientStep change files .kicking .kicked files (.answers (.applied change.desiredGeneration))
  | ended (phase : XrayPhase) (event : XrayEvent) (answer : AgentAnswer)
    (unapplied : ∀ generation, answer ≠ .applied generation) :
    ClientStep change files phase event files (.answers answer)

variable {files : XrayFiles} {change : ClientChange} {clientUuid : Uuid}
  {clients : Clients}

variable {outcome : Outcome XrayPhase}

theorem clientStep_of_step {after : XrayFiles} {phase : XrayPhase} {event : XrayEvent}
    (stepped : change.step files phase event = some (after, outcome)) :
    ClientStep change files phase event after outcome := by
  unfold ClientChange.step at stepped
  split at stepped
  · split at stepped
    · rename_i serves
      cases stepped
      exact .locked serves
    · cases stepped
      exact .ended _ _ _ nofun
  · cases stepped
    exact .written _
  · cases stepped
    exact .ended _ _ _ nofun
  · split at stepped
    · rename_i served
      cases stepped
      exact .promoted _ served
    · rename_i config differs
      cases stepped
      exact .writtenHysteria _ config differs
  · cases stepped
    exact .rolledBack _ _ (Or.inl rfl)
  · cases stepped
    exact .promotedHysteria _
  · cases stepped
    exact .rolledBack _ _ (Or.inr rfl)
  · split at stepped
    · cases stepped
      exact .ended _ _ _ nofun
    · rename_i config differs
      cases stepped
      exact .rolledBackHysteria _ config differs
  all_goals cases stepped
  all_goals first
    | exact .kicked
    | exact .ended _ _ _ nofun

theorem clientStep_lock {after : XrayFiles} {phase : XrayPhase} {event : XrayEvent}
    (stepped : ClientStep change files phase event after outcome) :
    ((phase.holdsLock = true ∨ event = .lockAcquired) ∧
      ∀ following, outcome = .goesOn following → following.holdsLock = true) ∨
    (phase.holdsLock = false ∧ after = files ∧ ∃ answer, outcome = .answers answer) := by
  cases stepped with
  | locked =>
    refine Or.inl ⟨Or.inr rfl, ?_⟩
    intro following same
    cases same
    rfl
  | rolledBack current _ applying =>
    refine Or.inl ⟨Or.inl (by rcases applying with same | same <;> rw [same] <;> rfl), ?_⟩
    intro following same
    cases same
    rfl
  | kicked => exact Or.inl ⟨Or.inl rfl, nofun⟩
  | ended _ _ answer _ =>
    cases holds : phase.holdsLock with
    | true => exact Or.inl ⟨Or.inl rfl, nofun⟩
    | false => exact Or.inr ⟨rfl, rfl, answer, rfl⟩
  | _ =>
    refine Or.inl ⟨Or.inl rfl, ?_⟩
    intro following same
    cases same
    rfl

section

variable (files)

def XrayFiles.liveHysteria (code : ProfileCode) : List Uuid :=
  match files.hysteriaConfig with
  | .http => (clientsFor files.record code).map RenderedXrayClient.clientUuid
  | .userpass users => users

def XrayFiles.liveClients (code : ProfileCode) : List Uuid :=
  (files.xrayConfig.filter fun entry => entry.1 == code).map Prod.snd

def XrayFiles.servedClients (code : ProfileCode) : List Uuid :=
  if files.settings.hysteriaProfile = some code then files.liveHysteria code
  else files.liveClients code

/-- `reconcile_client`, which has no await. -/
def reconcileClient (readable : Bool) (clientUuid : Uuid) (code : ProfileCode) : AgentAnswer :=
  if files.settings.hysteriaProfile ≠ some code ∧ !files.settings.inbounds.contains code then
    .observed .ambiguous none
  else if !readable then .observed .ambiguous none
  else
    match clientOf files.record clientUuid, (files.servedClients code).contains clientUuid with
    | some recorded, true =>
      if recorded.protocolProfileCode ≠ code then
        .observed .ambiguous (some recorded.generation)
      else .observed .inSync (some recorded.generation)
    | none, false => .observed .driftDetected none
    | some recorded, false => .observed .ambiguous (some recorded.generation)
    | none, true => .observed .ambiguous none

/-- `resync_served_config` at start. -/
def XrayFiles.resync : XrayFiles :=
  let served := files.writeXray files.record
  match served.hysteriaWrite files.record with
  | none => served
  | some config => { served with hysteriaConfig := config }

/-! ## What the client sets hold -/

def Unlisted (clients : Clients) (clientUuid : Uuid) : Prop :=
  ∀ client ∈ clients, client.clientUuid ≠ clientUuid

def HysteriaConfig.users : HysteriaConfig → List Uuid
  | .http => []
  | .userpass users => users

def XrayFiles.XrayLacks (clientUuid : Uuid) : Prop :=
  ∀ entry ∈ files.xrayConfig, entry.2 ≠ clientUuid

def XrayFiles.HysteriaLacks (clientUuid : Uuid) : Prop :=
  files.settings.hysteriaProfile ≠ none → clientUuid ∉ files.hysteriaConfig.users

structure XrayFiles.Lacks (clientUuid : Uuid) : Prop where
  record : Unlisted files.record clientUuid
  xray : files.XrayLacks clientUuid
  hysteria : files.HysteriaLacks clientUuid

theorem writeXray_lacks (unlisted : Unlisted clients clientUuid) :
    (files.writeXray clients).XrayLacks clientUuid := by
  intro entry member named
  obtain ⟨client, kept, rfl⟩ := mem_map.mp member
  exact unlisted client (mem_filter.mp kept).1 named

end

theorem hysteriaWrite_lacks (unlisted : Unlisted clients clientUuid) :
    (∀ config, files.hysteriaWrite clients = some config → clientUuid ∉ config.users) ∧
      (files.hysteriaWrite clients = none → files.HysteriaLacks clientUuid) := by
  unfold XrayFiles.hysteriaWrite
  cases profile : files.settings.hysteriaProfile with
  | none => exact ⟨nofun, fun _ served => absurd profile served⟩
  | some code =>
    have lacks : clientUuid ∉ (files.settings.renderHysteria code clients).users := by
      unfold XraySettings.renderHysteria
      split
      · exact not_mem_nil
      · intro member
        obtain ⟨client, kept, named⟩ := mem_map.mp member
        exact unlisted client (mem_filter.mp kept).1 named
    by_cases same : files.hysteriaConfig = files.settings.renderHysteria code clients
    · simp only [if_pos same]
      refine ⟨nofun, fun _ _ => ?_⟩
      rw [same]
      exact lacks
    · simp only [if_neg same]
      refine ⟨?_, nofun⟩
      intro config written
      cases written
      exact lacks

theorem resync_lacks (lacks : files.Lacks clientUuid) : files.resync.Lacks clientUuid := by
  have served := writeXray_lacks files lacks.record
  obtain ⟨written, _⟩ := hysteriaWrite_lacks lacks.record
  unfold XrayFiles.resync
  dsimp only
  split
  · exact ⟨lacks.record, served, lacks.hysteria⟩
  · rename_i config differs
    exact ⟨lacks.record, served, fun _ => written config differs⟩

theorem XrayFiles.Lacks.served (lacks : files.Lacks clientUuid) (code : ProfileCode) :
    clientUuid ∉ files.servedClients code := by
  unfold XrayFiles.servedClients
  split
  · rename_i profile
    have unserved := lacks.hysteria (by rw [profile]; nofun)
    unfold XrayFiles.liveHysteria
    split
    · intro member
      obtain ⟨client, kept, named⟩ := mem_map.mp member
      exact lacks.record client (mem_filter.mp kept).1 named
    · rename_i users lists
      simpa [lists, HysteriaConfig.users] using unserved
  · intro member
    obtain ⟨entry, kept, named⟩ := mem_map.mp member
    exact lacks.xray entry (mem_filter.mp kept).1 named

theorem reconcileClient_drift {readable : Bool} {code : ProfileCode} {observed : Option Nat}
    (drift : reconcileClient files readable clientUuid code = .observed .driftDetected observed) :
    clientOf files.record clientUuid = none ∧ clientUuid ∉ files.servedClients code := by
  unfold reconcileClient at drift
  split at drift
  · cases drift
  split at drift
  · cases drift
  split at drift
  · split at drift <;> cases drift
  · rename_i unrecorded unserved
    exact ⟨unrecorded, by simpa using unserved⟩
  · cases drift
  · cases drift

end Nebula.Agent
