import Nebula.Agent.XrayCall

/-!
# A call to the Xray driver is all or nothing

The record and the two configs are those of the desired clients if a call reported success and
those of the previous ones otherwise.
-/

namespace Nebula.Agent.XrayCall

open Effects Schema ControlPlane

/-- Success leaves the desired clients, anything else the previous ones. A rollback that fails is
excepted. -/
def AllOrNothing (call : Call) (before : Host) : EStateM.Result XrayError Host Response → Prop
  | .ok response after =>
    if response.success = true then after.Serves (call.desired before.record)
    else after.Serves before.record
  | .error (.rollingBack _) _ => True
  | .error (.raised _) after => after.Serves before.record

instance (call : Call) (before : Host) (result : EStateM.Result XrayError Host Response) :
    Decidable (AllOrNothing call before result) := by
  unfold AllOrNothing
  split <;> infer_instance

inductive Stop where
  | untouched
  | xrayWritten
  | hysteriaWritten
  | handled

def HysteriaEnds.stop (ends : HysteriaEnds) : Stop :=
  if ends.written = false then .xrayWritten
  else
    match ends.ended with
    | .timedOut => .hysteriaWritten
    | .succeeded | .failed => .handled

/-- Validation and the Xray config come before any change; after that only an apply error is rolled
back. -/
def Ends.stop (ends : Ends) (host : Host) (desired : Clients) : Stop :=
  if ends.validate ≠ .succeeded ∨ ends.written = false then .untouched
  else
    match ends.xrayEnded (host.updatesLive host.xrayConfig (host.renderXray desired)) with
    | .failed => .handled
    | .timedOut => .xrayWritten
    | .succeeded => if (host.hysteriaWrite desired).isNone then .handled else ends.hysteria.stop

def Stop.whole (host : Host) (desired : Clients) : Stop → Bool
  | .handled => true
  | .untouched => decide (host.Serves host.record)
  | .xrayWritten =>
    decide (host.renderXray desired = host.renderXray host.record) &&
      (host.hysteriaWrite host.record).isNone
  | .hysteriaWritten =>
    decide (host.renderXray desired = host.renderXray host.record) &&
      host.settings.hysteriaProfile.all fun code =>
        decide (host.renderHysteria code desired = host.renderHysteria code host.record)

theorem serves_xrayWritten {host : Host} {desired : Clients} :
    ({ host with xrayConfig := host.renderXray desired } : Host).Serves host.record ↔
      Stop.xrayWritten.whole host desired = true := by
  simp only [Stop.whole, Bool.and_eq_true, decide_eq_true_eq, Option.isNone_iff_eq_none]
  exact ⟨fun serves => ⟨serves.xray, serves.hysteria⟩,
    fun ⟨xray, hysteria⟩ => ⟨rfl, xray, hysteria⟩⟩

section

variable (call : Call) (ends : Ends) (host : Host) (succeeded failed : Response)

theorem rolledBack_allOrNothing {reached : Host} (same : reached.record = host.record)
    (reports : failed.success = false) :
    AllOrNothing call host (answered (call.desired host.record) succeeded failed
      ((rolledBack ends).run reached)) := by
  rw [rolledBack_run]
  rcases restore_result ends reached with ⟨after, ran, serves⟩ | ⟨kind, after, ran⟩
  · rw [same] at serves
    simp [ran, answered, AllOrNothing, reports, serves]
  · simp [ran, answered, AllOrNothing]

theorem promoted_allOrNothing {reached : Host} (succeeds : succeeded.success = true)
    (xray : reached.xrayConfig = reached.renderXray (call.desired host.record))
    (hysteria : reached.hysteriaWrite (call.desired host.record) = none) :
    AllOrNothing call host
      (answered (call.desired host.record) succeeded failed (.ok () reached)) := by
  simp only [answered, AllOrNothing, succeeds, if_true]
  exact ⟨rfl, xray, hysteria⟩

theorem attempt_allOrNothing (succeeds : succeeded.success = true)
    (reports : failed.success = false) :
    AllOrNothing call host
        ((attempt ends (call.desired host.record) succeeded failed).run host) ↔
      (ends.stop host (call.desired host.record)).whole host (call.desired host.record) = true := by
  by_cases begun : ends.validate = .succeeded ∧ ends.written = true
  · obtain ⟨valid, written⟩ := begun
    rw [attempt_written ends host valid written, applyBoth_result, Ends.stop,
      if_neg (by simp [valid, written])]
    simp only [updatesLive_written, renderXray_written, hysteriaWrite_xrayWritten]
    cases ends.xrayEnded
        (host.updatesLive host.xrayConfig (host.renderXray (call.desired host.record))) with
    | failed =>
      exact iff_of_true (rolledBack_allOrNothing call ends host succeeded failed rfl reports) rfl
    | timedOut => exact serves_xrayWritten
    | succeeded =>
      cases writes : host.hysteriaWrite (call.desired host.record) with
      | none =>
        exact iff_of_true (promoted_allOrNothing call host succeeded failed succeeds rfl writes) rfl
      | some config =>
        simp only [Option.isNone_some, Bool.false_eq_true, if_false, HysteriaEnds.stop]
        cases ends.hysteria.written with
        | false => exact serves_xrayWritten
        | true =>
          cases ends.hysteria.ended with
          | timedOut =>
            obtain ⟨code, profile, rfl⟩ := hysteriaWrite_some writes
            have hysteria := hysteriaWrite_none
              { host with
                xrayConfig := host.renderXray (call.desired host.record)
                hysteriaConfig := host.renderHysteria code (call.desired host.record) }
              host.record code profile
            change _ ↔ Stop.hysteriaWritten.whole host (call.desired host.record) = true
            simp only [Stop.whole, profile, Option.all_some, Bool.and_eq_true, decide_eq_true_eq]
            exact ⟨fun serves => ⟨serves.xray, hysteria.mp serves.hysteria⟩,
              fun same => ⟨rfl, same.1, hysteria.mpr same.2⟩⟩
          | failed =>
            exact iff_of_true
              (rolledBack_allOrNothing call ends host succeeded failed rfl reports) rfl
          | succeeded =>
            refine iff_of_true
              (promoted_allOrNothing call host succeeded failed succeeds rfl ?_) rfl
            exact hysteriaWrite_written writes
  · -- Nothing was written: the files are what they were.
    have untouched : ends.stop host (call.desired host.record) = .untouched := by
      rw [Ends.stop, if_pos]
      simpa [imp_iff_not_or] using begun
    rw [untouched, attempt_result, applyDelta_result]
    cases valid : ends.validate with
    | failed => simp [AllOrNothing, reports, Stop.whole]
    | timedOut => simp [AllOrNothing, Stop.whole]
    | succeeded =>
      have unwritten : ends.written = false := by simpa [valid] using begun
      simp [unwritten, AllOrNothing, Stop.whole]

end

def Call.applies (call : Call) (host : Host) : Bool :=
  match call with
  | .change asked => host.settings.serves asked.protocolProfileCode
  | .prune expected => !host.nothingToPrune expected

/-- A call without a change begins with the recorded clients' files, and one stopped by an error
nothing rolls back for leaves them. -/
def Call.leavesWhole (call : Call) (ends : Ends) (host : Host) : Bool :=
  if call.applies host then
    (ends.stop host (call.desired host.record)).whole host (call.desired host.record)
  else decide (host.Serves host.record)

theorem survivors_nothingToPrune {host : Host} {expected : List Uuid}
    (nothing : host.nothingToPrune expected = true) :
    survivors expected host.record = host.record := by
  simp only [Host.nothingToPrune, Bool.and_eq_true, decide_eq_true_eq] at nothing
  exact List.filter_sublist.eq_of_length nothing.1.symm

def quietHost : Host where
  settings := { inbounds := [1], hysteriaProfile := none, liveClientUpdates := false }
  liveProfiles := [1]
  xrayShape := ['x']
  hysteriaShape := ['h']
  record := []
  xrayConfig := .config ['x'] [(1, [])]
  hysteriaConfig := .unreadable

def newClient : ClientChange where
  operationKind := .provisionDevice
  clientUuid := 7
  protocolProfileCode := 1
  desiredGeneration := 1

def restartKilled : Ends where
  validate := .succeeded
  written := true
  live := .succeeded
  reload := .timedOut
  hysteria := ⟨true, .succeeded, [.active]⟩
  rollbackWritten := true
  rollbackReload := .succeeded
  rollbackHysteria := ⟨true, .succeeded, [.active]⟩

end Nebula.Agent.XrayCall
