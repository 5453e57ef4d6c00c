import Nebula.Agent.XrayWhole

/-!
# A call to the Xray driver, step by step

The fleet's model of the driver has one step for each wait and knows a served file by its
clients. A call ends as its steps do when nothing comes between them.
-/

namespace Nebula.Agent.XrayCall

open ControlPlane

def drive (asked : ClientChange) :
    XrayFiles × Outcome XrayPhase → List XrayEvent → Option (XrayFiles × AgentAnswer)
  | (files, .answers answer), [] => some (files, answer)
  | (files, .goesOn phase), event :: rest =>
    (asked.step files phase event).bind fun next => drive asked next rest
  | _, _ => none

structure Reflects (host : Host) (files : XrayFiles) : Prop where
  settings : files.settings = host.settings
  record : files.record = host.record
  xray : ∀ pair, pair ∈ files.xrayConfig ↔ pair ∈ host.served.xrayConfig
  hysteria : host.hysteriaConfig = .config host.hysteriaShape files.hysteriaConfig

section

variable {host : Host} {files : XrayFiles} (reflects : Reflects host files)
include reflects

theorem reflects_writeXray (clients : Clients) :
    Reflects { host with xrayConfig := host.renderXray clients } (files.writeXray clients) := by
  refine ⟨reflects.settings, reflects.record, ?_, reflects.hysteria⟩
  rintro ⟨code, clientUuid⟩
  simp only [XrayFiles.writeXray, XraySettings.renderXray, reflects.settings, Host.served,
    Host.renderXray, List.flatMap_map, List.map_map, List.mem_flatMap, List.mem_map,
    List.mem_filter, List.contains_iff_mem, clientsFor, beq_iff_eq, Function.comp_apply,
    Prod.mk.injEq]
  constructor
  · rintro ⟨client, ⟨member, listed⟩, rfl, rfl⟩
    exact ⟨client.protocolProfileCode, listed, client, ⟨member, rfl⟩, rfl, rfl⟩
  · rintro ⟨profile, listed, client, ⟨member, rfl⟩, rfl, rfl⟩
    exact ⟨client, ⟨member, listed⟩, rfl, rfl⟩

theorem reflects_hysteriaWrite {clients : Clients} :
    host.hysteriaWrite clients =
      (files.hysteriaWrite clients).map (.config host.hysteriaShape) := by
  unfold Host.hysteriaWrite XrayFiles.hysteriaWrite
  rw [reflects.settings, reflects.hysteria]
  cases host.settings.hysteriaProfile with
  | none => rfl
  | some code =>
    by_cases served : files.hysteriaConfig = host.settings.renderHysteria code clients
    · simp [Host.renderHysteria, served]
    · simp [Host.renderHysteria, served]

theorem reflects_writeHysteria (config : HysteriaConfig) :
    Reflects { host with hysteriaConfig := .config host.hysteriaShape config }
      { files with hysteriaConfig := config } :=
  ⟨reflects.settings, reflects.record, reflects.xray, rfl⟩

end

def Response.answer : Response → AgentAnswer
  | .applied generation => .applied generation
  | .failed generation => .failed generation
  | .pruned _ _ | .pruneFailed _ => .invalid

def seen : EStateM.Result XrayError Host Response → Host × AgentAnswer
  | .ok response host => (host, response.answer)
  | .error _ host => (host, .rejected)

def Driven (asked : ClientChange) (reached : XrayFiles × Outcome XrayPhase)
    (result : EStateM.Result XrayError Host Response) : Prop :=
  ∃ events after, drive asked reached events = some (after, (seen result).2) ∧
    Reflects (seen result).1 after

variable {result : EStateM.Result XrayError Host Response}

theorem driven_step {asked : ClientChange} {files : XrayFiles} {phase : XrayPhase}
    (event : XrayEvent) {next : XrayFiles × Outcome XrayPhase}
    (stepped : asked.step files phase event = some next) (driven : Driven asked next result) :
    Driven asked (files, .goesOn phase) result := by
  obtain ⟨events, after, ran, reflects⟩ := driven
  refine ⟨event :: events, after, ?_, reflects⟩
  rw [drive, stepped]
  exact ran

theorem driven_answer (asked : ClientChange) {files : XrayFiles} {answer : AgentAnswer} (same :
    (seen result).2 = answer)
    (reflects : Reflects (seen result).1 files) : Driven asked (files, .answers answer) result :=
  ⟨[], files, by rw [same]; rfl, reflects⟩

structure Ends.Writable (ends : Ends) : Prop where
  xray : ends.written = true
  hysteria : ends.hysteria.written = true
  rollbackXray : ends.rollbackWritten = true
  rollbackHysteria : ends.rollbackHysteria.written = true

section

variable (asked : ClientChange) {ends : Ends} (writable : ends.Writable)
  (current : Clients) (succeeded : Response) {host : Host} {files : XrayFiles}
  (reflects : Reflects host files)
include writable reflects

theorem rolledBack_driven :
    Driven asked (files.beginRollback current)
      (answered (asked.desired current) succeeded (.failed (asked.lastAppliedGeneration current))
        ((rolledBack ends).run host)) := by
  have restored := reflects_writeXray reflects host.record
  rw [rolledBack_run, restore_run, writable.rollbackXray, XrayFiles.beginRollback, reflects.record]
  cases ends.rollbackReload with
  | failed =>
    exact driven_step .rollbackFailed rfl (driven_answer asked rfl restored)
  | timedOut =>
    exact driven_step .timedOut rfl (driven_answer asked rfl restored)
  | succeeded =>
    simp only [Bool.true_eq_false, if_false, applyHysteria_result]
    rw [reflects_hysteriaWrite restored, writable.rollbackHysteria]
    have same : (files.writeXray host.record).record = host.record := reflects.record
    cases writes : (files.writeXray host.record).hysteriaWrite host.record with
    | none =>
      have stepped : asked.step (files.writeXray host.record) (.rollingBack current) .applied =
          some (files.writeXray host.record,
            .answers (.failed (asked.lastAppliedGeneration current))) := by
        simp only [ClientChange.step, same, writes]
      exact driven_step .applied stepped (driven_answer asked rfl restored)
    | some config =>
      have stepped : asked.step (files.writeXray host.record) (.rollingBack current) .applied =
          some ({ files.writeXray host.record with hysteriaConfig := config },
            .goesOn (.rollingBackHysteria current)) := by
        simp only [ClientChange.step, same, writes]
      have served := reflects_writeHysteria restored config
      refine driven_step .applied stepped ?_
      cases ends.rollbackHysteria.ended with
      | failed =>
        exact driven_step .rollbackFailed rfl (driven_answer asked rfl served)
      | timedOut =>
        exact driven_step .timedOut rfl (driven_answer asked rfl served)
      | succeeded =>
        exact driven_step .applied rfl (driven_answer asked rfl served)

omit writable in
theorem promoted_driven :
    Driven asked (asked.promote files current)
      (answered (asked.desired current) (.applied asked.desiredGeneration)
        (.failed (asked.lastAppliedGeneration current)) (.ok () host)) := by
  refine driven_step .kicked rfl (driven_answer asked rfl ?_)
  exact ⟨reflects.settings, rfl, reflects.xray, reflects.hysteria⟩

theorem applyBoth_driven {before : Served Inbounds} :
    Driven asked (files, .goesOn (.applying current))
      (answered (asked.desired current) (.applied asked.desiredGeneration)
        (.failed (asked.lastAppliedGeneration current))
        ((applyBoth ends before (asked.desired current)).run host)) := by
  rw [applyBoth_result]
  cases ends.xrayEnded (host.updatesLive before (host.renderXray (asked.desired current))) with
  | failed =>
    exact driven_step .applyFailed rfl (rolledBack_driven asked writable current _ reflects)
  | timedOut =>
    exact driven_step .timedOut rfl (driven_answer asked rfl reflects)
  | succeeded =>
    rw [reflects_hysteriaWrite reflects, writable.hysteria]
    cases writes : files.hysteriaWrite (asked.desired current) with
    | none =>
      have stepped : asked.step files (.applying current) .applied =
          some (asked.promote files current) := by
        simp only [ClientChange.step, writes]
      exact driven_step .applied stepped (promoted_driven asked current reflects)
    | some config =>
      have stepped : asked.step files (.applying current) .applied =
          some ({ files with hysteriaConfig := config },
            .goesOn (.applyingHysteria current)) := by
        simp only [ClientChange.step, writes]
      have served := reflects_writeHysteria reflects config
      refine driven_step .applied stepped ?_
      cases ends.hysteria.ended with
      | failed =>
        exact driven_step .applyFailed rfl (rolledBack_driven asked writable current _ served)
      | timedOut =>
        exact driven_step .timedOut rfl (driven_answer asked rfl served)
      | succeeded =>
        exact driven_step .applied rfl (promoted_driven asked current served)

/-- Some events lead the steps to the call's files and answer. -/
theorem performChange_driven :
    Driven asked (files, .goesOn .locking) ((performChange ends asked).run host) := by
  rw [performChange_result]
  have locked : asked.step files .locking .lockAcquired =
      if host.settings.serves asked.protocolProfileCode = true then
        some (files, .goesOn (.validating host.record))
      else some (files, .answers .rejected) := by
    rw [← reflects.settings, ← reflects.record]
    rfl
  by_cases serves : host.settings.serves asked.protocolProfileCode = true
  swap
  · rw [if_neg serves] at locked ⊢
    exact driven_step .lockAcquired locked (driven_answer asked rfl reflects)
  rw [if_pos serves] at locked ⊢
  refine driven_step .lockAcquired locked ?_
  cases valid : ends.validate with
  | failed =>
    rw [attempt_result, applyDelta_result, valid]
    exact driven_step .invalid rfl (driven_answer asked rfl reflects)
  | timedOut =>
    rw [attempt_result, applyDelta_result, valid]
    exact driven_step .timedOut rfl (driven_answer asked rfl reflects)
  | succeeded =>
    rw [attempt_written ends host valid writable.xray]
    refine driven_step .validated rfl ?_
    exact applyBoth_driven asked writable host.record
      (reflects_writeXray reflects (asked.desired host.record))

end

def readableHost : Host :=
  { quietHost with hysteriaConfig := .config ['h'] .http }

theorem performChange_driven_restartKilled :
    Driven newClient (readableHost.served, .goesOn .locking)
      ((performChange restartKilled newClient).run readableHost) :=
  performChange_driven newClient ⟨rfl, rfl, rfl, rfl⟩ ⟨rfl, rfl, fun _ => Iff.rfl, rfl⟩

end Nebula.Agent.XrayCall
