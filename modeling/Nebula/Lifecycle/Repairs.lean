import Nebula.ControlPlane.TaskSteps

/-!
# What a pass sends again

A pass goes by the row as it read it. Up to a whole batch of agent calls later a repair is sent,
and the row is not read again before.
-/

namespace Nebula.Lifecycle

open Schema Store Runs ControlPlane

def servedRow (tables : Tables) (id : Uuid) : Bool :=
  (tables.row id).any fun row => row.state == .active || row.state == .applying

def unsent : Task → Option RowCheck
  | .queued check | .probing check | .repairing check => some check
  | _ => none

def repairRequest : Task → Option AgentRequest
  | .repairCalling check idempotencyKey _ => some (check.request idempotencyKey)
  | _ => none

/-- A provision that a pass sends in this step is for a row that is active or applying. -/
def ProvisionsServed (_ : State) (event : Event) (next : State) : Prop :=
  ∀ entry ∈ next.tasks, event.task = some entry.1 → ∀ request ∈ repairRequest entry.2,
    request.operationKind = .provisionDevice → servedRow next.tables request.targetId = true
  deriving Decidable

/-- No row is taken out while a pass that read it to keep it has yet to send its repair. -/
def keepsServed (state : State) (event : Event) : Prop :=
  ∀ planned ∈ plan state event, ∀ entry ∈ state.tasks, ∀ check ∈ unsent entry.2,
    check.wantsPresent = true → servedRow state.tables check.snapshot.id = true →
      servedRow planned.tables check.snapshot.id = true
  deriving Decidable

def ChecksCurrent (state : State) : Prop :=
  ∀ entry ∈ state.tasks, ∀ check ∈ unsent entry.2, check.wantsPresent = true →
    servedRow state.tables check.snapshot.id = true

section

variable {state next : State} {event : Event}

theorem servedRow_of_candidate {pass : Pass} {row : Row} (member : row ∈ state.tables.rows)
    (selected : isCandidate state.tables pass row = true) (present : row.state ≠ .revoking) :
    servedRow state.tables row.id = true := by
  have found : state.tables.row row.id = some row :=
    lookup_of_mem_nodup _ state.database.consistent.rowIds member
  simp only [isCandidate, Bool.and_eq_true] at selected
  unfold servedRow
  cases held : row.state <;> simp_all [ProvisioningState.candidate]

variable (current : ChecksCurrent state) (taken : step state event = some next)
include current taken

theorem step_served (keeps : keepsServed state event) {id : TaskId} {task : Task}
    (member : (id, task) ∈ state.tasks) {check : RowCheck} (waits : check ∈ unsent task)
    (present : check.wantsPresent = true) :
    servedRow next.tables check.snapshot.id = true := by
  have before := current _ member check waits present
  obtain ⟨planned, success, committed | aborted⟩ := step_cases taken
  · rw [committed.tables]
    exact keeps planned success _ member check waits present before
  · rw [aborted.tables]
    exact before

theorem step_current (keeps : keepsServed state event) : ChecksCurrent next := by
  rintro ⟨id, task⟩ member check waits present
  rcases step_tasks taken member with ⟨old, _⟩ | start
  · exact step_served current taken keeps old waits present
  cases start with
  | resumed received old _ _ found resumes =>
    cases resumes with
    | repairing =>
      exact step_served current taken keeps (task_mem found) waits present
    | _ => cases waits
  | queued task batchSize pass row _ happened _ among selected =>
    cases waits
    have before := servedRow_of_candidate among selected
      (by simpa [RowCheck.wantsPresent, rowCheck] using present)
    obtain ⟨planned, success, committed | aborted⟩ := step_cases taken
    · subst happened
      rw [committed.tables]
      change passRead state task batchSize = some planned at success
      unfold passRead at success
      split at success <;> cases success
      exact before
    · rw [aborted.tables]
      exact before
  | probing check _ found =>
    exact step_served current taken keeps (task_mem found) waits present
  | _ => cases waits

theorem step_provisionsServed (keeps : keepsServed state event) :
    ProvisionsServed state event next := by
  rintro ⟨id, task⟩ member own request sent provision
  rcases step_tasks taken member with ⟨_, other⟩ | start
  · exact absurd own other
  cases start with
  | resumed received old _ _ _ resumes => cases resumes <;> cases sent
  | takingOver now check operation _ found | repairing now check operation _ found =>
    cases sent
    refine step_served current taken keeps (task_mem found) rfl ?_
    simpa [RowCheck.request, RowCheck.operationKind] using provision
  | _ => cases sent

end

theorem repairs_provision_served (start : State) (events : List Event) (idle : start.tasks = [])
    (meets : RunMeets step keepsServed events start) :
    EachStep step ProvisionsServed events start := by
  refine eachStep_of_invariant ChecksCurrent ?_ ?_ (by simp [ChecksCurrent, idle]) meets
  · exact fun state event next current keeps taken => step_current current taken keeps
  · exact fun state event next current keeps taken => step_provisionsServed current taken keeps

def foundMissing : List Event :=
  peerConnected ++ [.passBegin ⟨.wireguardPeer, false, none⟩ 12, .passRead 1 50, .rowStart 2,
    .answer 2 (.observed .driftDetected none)]

theorem repairs_provision_served_foundMissing :
    EachStep step ProvisionsServed (foundMissing ++ [.repairBegin 2 13]) smallStart ∧
      ∃ final, runEvents step (foundMissing ++ [.repairBegin 2 13]) smallStart = some final ∧
        (final.tasks.any fun entry => (repairRequest entry.2).any fun request =>
          request.operationKind == .provisionDevice) = true :=
  ⟨repairs_provision_served smallStart _ rfl (by decide +kernel),
    runEvents_exists step _ _ _ (by decide +kernel)⟩

theorem repairs_provision_revoked :
    ¬ EachStep step ProvisionsServed
      ((foundMissing ++ [.revokeDevice 2 14]) ++ [.repairBegin 2 15]) smallStart :=
  not_eachStep step (by decide +kernel)

end Nebula.Lifecycle
