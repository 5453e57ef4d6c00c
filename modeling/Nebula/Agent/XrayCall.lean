import Nebula.Json
import Nebula.Effects
import Nebula.Agent.Prune

/-!
# One Xray call from beginning to end

`provision_client`, `revoke_client` and `prune_clients` under `_apply_lock`. A change is recorded
in three files: the driver's record and the configs of Xray and Hysteria2. A command may exit zero,
exit non-zero or be killed at its timeout, and a config may not be writable.

`_apply_delta` rolls back for an apply error only, not for a timeout or a file that cannot be
written.
-/

namespace Nebula.Agent.XrayCall

open Effects Json Schema

inductive Served (Contents : Type) where
  | unreadable
  | unparsed (text : Text)
  | config (shape : Text) (contents : Contents)
  deriving DecidableEq

abbrev Inbounds := List (ProfileCode × List Uuid)

structure Host where
  settings : XraySettings
  liveProfiles : List ProfileCode
  xrayShape : Text
  hysteriaShape : Text
  record : Clients
  xrayConfig : Served Inbounds
  hysteriaConfig : Served HysteriaConfig

namespace Host

variable (host : Host)

def renderXray (clients : Clients) : Served Inbounds :=
  .config host.xrayShape
    (host.settings.inbounds.map fun code =>
      (code, (clientsFor clients code).map RenderedXrayClient.clientUuid))

def renderHysteria (code : ProfileCode) (clients : Clients) : Served HysteriaConfig :=
  .config host.hysteriaShape (host.settings.renderHysteria code clients)

/-- `_shape_without_clients`: the file with its live client lists emptied. -/
def shapeWithoutClients : Served Inbounds → Option (Text × Inbounds)
  | .config shape inbounds =>
    some (shape, inbounds.map fun inbound =>
      (inbound.1, if host.liveProfiles.contains inbound.1 then [] else inbound.2))
  | _ => none

/-- Whether `_apply_xray` changes the running clients through the API. -/
def updatesLive (served rendered : Served Inbounds) : Bool :=
  host.settings.liveClientUpdates && (host.shapeWithoutClients served).isSome &&
    decide (host.shapeWithoutClients served = host.shapeWithoutClients rendered)

/-- The Hysteria2 config to write: none without a profile, or if it is served already. -/
def hysteriaWrite (clients : Clients) : Option (Served HysteriaConfig) :=
  match host.settings.hysteriaProfile with
  | none => none
  | some code =>
    if host.hysteriaConfig = host.renderHysteria code clients then none
    else some (host.renderHysteria code clients)

/-- What `_unaccounted_live_uuids` reads of the two files. -/
def served : XrayFiles where
  settings := host.settings
  record := host.record
  xrayConfig :=
    match host.xrayConfig with
    | .config _ inbounds => inbounds.flatMap fun inbound => inbound.2.map (Prod.mk inbound.1)
    | _ => []
  hysteriaConfig :=
    match host.hysteriaConfig with
    | .config _ config => config
    | _ => .userpass []

def readable : Bool :=
  (host.settings.inbounds.isEmpty || (host.shapeWithoutClients host.xrayConfig).isSome) &&
    (host.settings.hysteriaProfile.isNone || decide (host.hysteriaConfig ≠ .unreadable))

end Host

/-! Rendering depends on the settings only. -/

section

variable (host : Host) (config : Served Inbounds) (clients : Clients)

@[simp] theorem renderXray_written :
    ({ host with xrayConfig := config } : Host).renderXray clients = host.renderXray clients :=
  rfl

@[simp] theorem updatesLive_written (served rendered : Served Inbounds) :
    ({ host with xrayConfig := config } : Host).updatesLive served rendered =
      host.updatesLive served rendered :=
  rfl

@[simp] theorem hysteriaWrite_xrayWritten :
    ({ host with xrayConfig := config } : Host).hysteriaWrite clients =
      host.hysteriaWrite clients :=
  rfl

end

/-! ## How the commands end -/

inductive RunEnd where
  | succeeded
  | failed
  | timedOut
  deriving DecidableEq

inductive PollEnd where
  | active
  | failed
  | notYet
  | timedOut

structure HysteriaEnds where
  written : Bool
  restart : RunEnd
  polls : List PollEnd

structure Ends where
  validate : RunEnd
  written : Bool
  /-- The API calls of `_apply_clients_live`; a set that does not match counts as failed. -/
  live : RunEnd
  reload : RunEnd
  hysteria : HysteriaEnds
  rollbackWritten : Bool
  rollbackReload : RunEnd
  rollbackHysteria : HysteriaEnds

inductive Raised where
  | validation
  | apply
  | timeout
  | unwritable

/-- An error, and whether the rollback raised it; `rollingBack apply` is `RollbackFailedError`. -/
inductive XrayError where
  | raised (kind : Raised)
  | rollingBack (kind : Raised)

abbrev XrayM := Program XrayError Host

def runCommand (ended : RunEnd) (failure : Raised) : XrayM Unit :=
  match ended with
  | .succeeded => pure ()
  | .failed => throw (.raised failure)
  | .timedOut => throw (.raised .timeout)

def writeXrayConfig (written : Bool) (clients : Clients) : XrayM Unit :=
  if written = true then
    modify fun host => { host with xrayConfig := host.renderXray clients }
  else throw (.raised .unwritable)

def pollActive : List PollEnd → XrayM Unit
  | [] | .failed :: _ => throw (.raised .apply)
  | .active :: _ => pure ()
  | .timedOut :: _ => throw (.raised .timeout)
  | .notYet :: rest => pollActive rest

def applyHysteria (ends : HysteriaEnds) (desired : Clients) : XrayM Unit := do
  match (← get).hysteriaWrite desired with
  | none => return
  | some config =>
    if ends.written = false then throw (.raised .unwritable)
    modify fun host => { host with hysteriaConfig := config }
    runCommand ends.restart .apply
    pollActive ends.polls

variable (ends : Ends)

/-- `_apply_xray`, after the config is written. -/
def applyXray (before : Served Inbounds) (desired : Clients) :
    XrayM Unit := do
  let host ← get
  if host.updatesLive before (host.renderXray desired) = true then
    tryCatch (runCommand ends.live .apply) fun error =>
      match error with
      | .raised .apply => runCommand ends.reload .apply
      | other => throw other
  else runCommand ends.reload .apply

def restore : XrayM Unit := do
  let recorded := (← get).record
  writeXrayConfig ends.rollbackWritten recorded
  runCommand ends.rollbackReload .apply
  applyHysteria ends.rollbackHysteria recorded

def rollback : XrayM Unit :=
  tryCatch (restore ends) fun error =>
    match error with
    | .raised kind => throw (.rollingBack kind)
    | other => throw other

def rolledBack : XrayM Unit := do
  rollback ends
  throw (.raised .apply)

def applyBoth (before : Served Inbounds) (desired : Clients) :
    XrayM Unit :=
  tryCatch
    (do
      applyXray ends before desired
      applyHysteria ends.hysteria desired)
    fun error =>
      match error with
      | .raised .apply => rolledBack ends
      | other => throw other

/-- `_apply_delta`; kicking the removed clients afterwards is best effort. -/
def applyDelta (desired : Clients) : XrayM Unit := do
  runCommand ends.validate .validation
  let before := (← get).xrayConfig
  writeXrayConfig ends.written desired
  applyBoth ends before desired
  modify fun host => { host with record := desired }

inductive Call where
  | change (asked : ClientChange)
  | prune (expected : List Uuid)

def Call.desired (call : Call) (current : Clients) : Clients :=
  match call with
  | .change asked => asked.desired current
  | .prune expected => survivors expected current

inductive Response where
  | applied (generation : Nat)
  | failed (generation : Nat)
  | pruned (removed kept : Nat)
  | pruneFailed (kept : Nat)

def Response.success : Response → Bool
  | .applied _ | .pruned _ _ => true
  | .failed _ | .pruneFailed _ => false

def attempt (desired : Clients) (succeeded failed : Response) :
    XrayM Response :=
  tryCatch
    (do
      applyDelta ends desired
      return succeeded)
    fun error =>
      match error with
      | .raised .validation | .raised .apply => return failed
      | other => throw other

def performChange (change : ClientChange) : XrayM Response := do
  let host ← get
  if host.settings.serves change.protocolProfileCode = false then throw (.raised .validation)
  attempt ends (change.desired host.record) (.applied change.desiredGeneration)
    (.failed (change.lastAppliedGeneration host.record))

def Host.nothingToPrune (host : Host) (expected : List Uuid) : Bool :=
  decide (host.record.length = (survivors expected host.record).length) &&
    (host.served.unaccounted host.readable expected).isEmpty

def performPrune (expected : List Uuid) : XrayM Response := do
  let host ← get
  let kept := survivors expected host.record
  if host.nothingToPrune expected = true then return .pruned 0 kept.length
  attempt ends kept
    (.pruned (host.record.length - kept.length +
      (host.served.unaccounted host.readable expected).length) kept.length)
    (.pruneFailed host.record.length)

def Call.perform (call : Call) (ends : Ends) : XrayM Response :=
  match call with
  | .change asked => performChange ends asked
  | .prune expected => performPrune ends expected

/-- The record and both served files are those of these clients. -/
@[mk_iff]
structure Host.Serves (host : Host) (clients : Clients) : Prop where
  record : host.record = clients
  xray : host.xrayConfig = host.renderXray clients
  hysteria : host.hysteriaWrite clients = none

instance (host : Host) (clients : Clients) : Decidable (host.Serves clients) :=
  decidable_of_iff' _ (Host.serves_iff host clients)

/-! ## What each function does -/

def pollsEnd : List PollEnd → RunEnd
  | [] | .failed :: _ => .failed
  | .active :: _ => .succeeded
  | .timedOut :: _ => .timedOut
  | .notYet :: rest => pollsEnd rest

def HysteriaEnds.ended (ends : HysteriaEnds) : RunEnd :=
  match ends.restart with
  | .succeeded => pollsEnd ends.polls
  | other => other

def Ends.xrayEnded (live : Bool) : RunEnd :=
  if live = true then
    match ends.live with
    | .failed => ends.reload
    | other => other
  else ends.reload

def RunEnd.leaving (ended : RunEnd) (failure : Raised) (host : Host) :
    EStateM.Result XrayError Host Unit :=
  match ended with
  | .succeeded => .ok () host
  | .failed => .error (.raised failure) host
  | .timedOut => .error (.raised .timeout) host

theorem runCommand_result (ended : RunEnd) (failure : Raised) (host : Host) :
    (runCommand ended failure).run host = ended.leaving failure host := by
  cases ended <;> rfl

theorem applyHysteria_result (ends : HysteriaEnds) (desired : Clients)
    (host : Host) :
    (applyHysteria ends desired).run host =
      match host.hysteriaWrite desired with
      | none => .ok () host
      | some config =>
        if ends.written = false then .error (.raised .unwritable) host
        else ends.ended.leaving .apply { host with hysteriaConfig := config } := by
  simp only [applyHysteria, run_bind, run_get]
  cases host.hysteriaWrite desired with
  | none => rfl
  | some config =>
    cases ends.written with
    | false => rfl
    | true =>
      simp only [HysteriaEnds.ended]
      cases ends.restart with
      | succeeded =>
        induction ends.polls with
        | nil => rfl
        | cons poll rest ih =>
          cases poll with
          | notYet => exact ih
          | active | failed | timedOut => rfl
      | failed => rfl
      | timedOut => rfl

variable (ends : Ends)

theorem applyXray_result (before : Served Inbounds)
    (desired : Clients) (host : Host) :
    (applyXray ends before desired).run host =
      (ends.xrayEnded (host.updatesLive before (host.renderXray desired))).leaving .apply host := by
  simp only [applyXray, run_bind, run_get, run_ite, Ends.xrayEnded]
  cases host.updatesLive before (host.renderXray desired) with
  | false => simp [runCommand_result]
  | true =>
    simp only [if_true, run_tryCatch, runCommand_result]
    cases ends.live with
    | succeeded => rfl
    | failed => simp [RunEnd.leaving, runCommand_result]
    | timedOut => rfl

variable (host : Host)

theorem hysteriaWrite_none (clients : Clients) (code : ProfileCode)
    (profile : host.settings.hysteriaProfile = some code) :
    host.hysteriaWrite clients = none ↔ host.hysteriaConfig = host.renderHysteria code clients := by
  unfold Host.hysteriaWrite
  rw [profile]
  by_cases served : host.hysteriaConfig = host.renderHysteria code clients
  · simp [served]
  · simp [served]

variable {clients : Clients} {config : Served HysteriaConfig}

theorem hysteriaWrite_some {host : Host} (writes : host.hysteriaWrite clients = some config) :
    ∃ code, host.settings.hysteriaProfile = some code ∧
      config = host.renderHysteria code clients := by
  unfold Host.hysteriaWrite at writes
  split at writes
  · cases writes
  rename_i code profile
  split at writes
  · cases writes
  · exact ⟨code, profile, (Option.some.inj writes).symm⟩

theorem hysteriaWrite_written {host : Host} (writes : host.hysteriaWrite clients = some config) :
    ({ host with hysteriaConfig := config } : Host).hysteriaWrite clients = none := by
  obtain ⟨code, profile, rfl⟩ := hysteriaWrite_some writes
  exact (hysteriaWrite_none { host with hysteriaConfig := host.renderHysteria code clients } clients
    code profile).mpr rfl

theorem restore_run :
    (restore ends).run host =
      if ends.rollbackWritten = false then .error (.raised .unwritable) host
      else
        match ends.rollbackReload with
        | .failed =>
          .error (.raised .apply) { host with xrayConfig := host.renderXray host.record }
        | .timedOut =>
          .error (.raised .timeout) { host with xrayConfig := host.renderXray host.record }
        | .succeeded =>
          (applyHysteria ends.rollbackHysteria host.record).run
            { host with xrayConfig := host.renderXray host.record } := by
  simp only [restore, run_bind, run_get, writeXrayConfig, run_ite, run_modify, run_throw,
    runCommand_result]
  cases ends.rollbackWritten with
  | false => rfl
  | true => cases ends.rollbackReload <;> rfl

theorem rolledBack_run :
    (rolledBack ends).run host =
      match (restore ends).run host with
      | .ok _ after => .error (.raised .apply) after
      | .error (.raised kind) after => .error (.rollingBack kind) after
      | .error error after => .error error after := by
  simp only [rolledBack, rollback, run_bind, run_tryCatch, run_throw]
  cases (restore ends).run host with
  | ok _ after => rfl
  | error error after => cases error <;> rfl

theorem restore_result :
    (∃ after, (restore ends).run host = .ok () after ∧ after.Serves host.record) ∨
      ∃ kind after, (restore ends).run host = .error (.raised kind) after := by
  rw [restore_run]
  cases ends.rollbackWritten with
  | false => exact Or.inr ⟨_, _, rfl⟩
  | true =>
    cases ends.rollbackReload with
    | failed | timedOut => exact Or.inr ⟨_, _, rfl⟩
    | succeeded =>
      simp only [Bool.true_eq_false, if_false, applyHysteria_result, hysteriaWrite_xrayWritten]
      cases writes : host.hysteriaWrite host.record with
      | none => exact Or.inl ⟨_, rfl, rfl, rfl, writes⟩
      | some config =>
        cases ends.rollbackHysteria.written with
        | false => exact Or.inr ⟨_, _, rfl⟩
        | true =>
          cases ends.rollbackHysteria.ended with
          | failed | timedOut => exact Or.inr ⟨_, _, rfl⟩
          | succeeded =>
            exact Or.inl ⟨_, rfl, rfl, rfl, hysteriaWrite_written writes⟩

theorem applyBoth_result (before : Served Inbounds)
    (desired : Clients) (host : Host) :
    (applyBoth ends before desired).run host =
      match ends.xrayEnded (host.updatesLive before (host.renderXray desired)) with
      | .failed => (rolledBack ends).run host
      | .timedOut => .error (.raised .timeout) host
      | .succeeded =>
        match host.hysteriaWrite desired with
        | none => .ok () host
        | some config =>
          if ends.hysteria.written = false then .error (.raised .unwritable) host
          else
            match ends.hysteria.ended with
            | .succeeded => .ok () { host with hysteriaConfig := config }
            | .failed => (rolledBack ends).run { host with hysteriaConfig := config }
            | .timedOut =>
              .error (.raised .timeout) { host with hysteriaConfig := config } := by
  simp only [applyBoth, run_tryCatch, run_bind, applyXray_result, applyHysteria_result]
  cases ends.xrayEnded (host.updatesLive before (host.renderXray desired)) with
  | failed => rfl
  | timedOut => rfl
  | succeeded =>
    simp only [RunEnd.leaving]
    cases host.hysteriaWrite desired with
    | none => rfl
    | some config =>
      cases ends.hysteria.written with
      | false => rfl
      | true =>
        cases ends.hysteria.ended with
        | succeeded | failed | timedOut => rfl

variable (desired : Clients)

theorem applyDelta_result (host : Host) :
    (applyDelta ends desired).run host =
      match ends.validate with
      | .failed => .error (.raised .validation) host
      | .timedOut => .error (.raised .timeout) host
      | .succeeded =>
        if ends.written = false then .error (.raised .unwritable) host
        else
          match (applyBoth ends host.xrayConfig desired).run
            { host with xrayConfig := host.renderXray desired } with
          | .ok _ after => .ok () { after with record := desired }
          | .error error after => .error error after := by
  simp only [applyDelta, run_bind, run_get, runCommand_result, writeXrayConfig, run_ite, run_modify,
    run_throw]
  cases ends.validate with
  | failed => rfl
  | timedOut => rfl
  | succeeded =>
    cases ends.written with
    | false => rfl
    | true =>
      simp only [RunEnd.leaving, if_true]
      cases (applyBoth ends host.xrayConfig desired).run
        { host with xrayConfig := host.renderXray desired } <;> rfl

theorem attempt_result (succeeded failed : Response) (host : Host) :
    (attempt ends desired succeeded failed).run host =
      match (applyDelta ends desired).run host with
      | .ok _ after => .ok succeeded after
      | .error (.raised .validation) after => .ok failed after
      | .error (.raised .apply) after => .ok failed after
      | .error error after => .error error after := by
  simp only [attempt, run_tryCatch, run_bind, run_pure]
  cases (applyDelta ends desired).run host with
  | ok _ after => rfl
  | error error after =>
    cases error with
    | rollingBack kind => rfl
    | raised kind => cases kind <;> rfl

def answered (succeeded failed : Response) :
    EStateM.Result XrayError Host Unit → EStateM.Result XrayError Host Response
  | .ok _ after => .ok succeeded { after with record := desired }
  | .error (.raised .validation) after | .error (.raised .apply) after => .ok failed after
  | .error error after => .error error after

theorem attempt_written {succeeded failed : Response}
    {desired : Clients} (valid : ends.validate = .succeeded)
    (written : ends.written = true) :
    (attempt ends desired succeeded failed).run host =
      answered desired succeeded failed ((applyBoth ends host.xrayConfig desired).run
        { host with xrayConfig := host.renderXray desired }) := by
  rw [attempt_result, applyDelta_result, valid, written]
  cases (applyBoth ends host.xrayConfig desired).run
      { host with xrayConfig := host.renderXray desired } with
  | ok _ after => rfl
  | error error after =>
    cases error with
    | rollingBack kind => rfl
    | raised kind => cases kind <;> rfl

theorem performChange_result (asked : ClientChange) (host : Host) :
    (performChange ends asked).run host =
      if host.settings.serves asked.protocolProfileCode = true then
        (attempt ends (asked.desired host.record) (.applied asked.desiredGeneration)
          (.failed (asked.lastAppliedGeneration host.record))).run host
      else .error (.raised .validation) host := by
  by_cases serves : host.settings.serves asked.protocolProfileCode = true
  · simp [performChange, serves]
  · simp [performChange, serves]

end Nebula.Agent.XrayCall
