import Nebula.ControlPlane.RowSteps

/-!
# What one step starts

The inversion of the step function on the task list: every entry a step writes,
with what the step had read when it wrote it.
-/

namespace Nebula.ControlPlane

open Schema Store List

inductive Resumes (received : AgentAnswer) : Task → Task → Prop
  | finalizing (call : ServiceCall) (applied : Option Nat)
    (verdict : ∀ generation, applied = some generation → received = .applied generation) :
    Resumes received (.calling call) (.finalizing call applied)
  | repairing (check : RowCheck) : Resumes received (.probing check) (.repairing check)
  | recovering (check : RowCheck) (outcome : ReconcileOutcome) (observed : Option Nat)
    (answered : received = .observed outcome observed)
    (agrees : outcome = if check.wantsPresent then .inSync else .driftDetected)
    (stuck : check.snapshot.state.stuck = true) :
    Resumes received (.probing check) (.recovering check observed)
  | repairFinalizing (check : RowCheck) (key : Uuid) (now : Instant) (succeeded : Bool)
    (applied : Option Nat)
    (verdict : succeeded = true → ∃ generation, received = .applied generation) :
    Resumes received (.repairCalling check key now)
      (.repairFinalizing check now succeeded applied)

variable {following : Task} {check : RowCheck} {received : AgentAnswer}

theorem probeVerdict_resumes {outcome : ReconcileOutcome} {observed : Option Nat}
    (verdict : probeVerdict check outcome observed = some following) :
    Resumes (.observed outcome observed) (.probing check) following := by
  unfold probeVerdict at verdict
  split at verdict
  · cases verdict
  · split at verdict
    · rename_i present
      split at verdict
      · rename_i stuck
        cases verdict
        exact .recovering check .inSync observed rfl (by rw [if_pos present]) stuck
      · cases verdict
    · cases verdict
      exact .repairing check
  · split at verdict
    · cases verdict
      exact .repairing check
    rename_i absent
    split at verdict
    · rename_i stuck
      cases verdict
      exact .recovering check .driftDetected observed rfl (by rw [if_neg absent]) stuck
    · cases verdict

theorem resumeProbe_resumes (resumes : resumeProbe check received = some (some following)) :
    Resumes received (.probing check) following := by
  cases received with
  | observed outcome observed =>
    refine probeVerdict_resumes ?_
    simpa [resumeProbe] using resumes
  | applied | failed | unreachable | rejected | ambiguous | invalid => cases resumes

theorem resume_resumes {old : Task} (resumes : old.resume received = some (some following)) :
    Resumes received old following := by
  cases old with
  | calling call =>
    cases received with
    | applied generation =>
      cases resumes
      exact .finalizing call (some generation) (by simp)
    | failed | unreachable | rejected =>
      cases resumes
      exact .finalizing call none (by simp)
    | observed | ambiguous | invalid => cases resumes
  | probing check => exact resumeProbe_resumes resumes
  | repairCalling check key now =>
    cases received with
    | applied generation =>
      cases resumes
      exact .repairFinalizing check key now true _ (fun _ => ⟨generation, rfl⟩)
    | failed | unreachable | rejected =>
      cases resumes
      exact .repairFinalizing check key now false _ (by simp)
    | observed | ambiguous | invalid => cases resumes
  | _ => cases resumes

/-! ## The entries a step writes -/

inductive TaskStart (state : State) (event : Event) (written : Tables) : TaskId → Task → Prop
  | connectChecked (id : TaskId) (request : ConnectRequest) (allowed : Bool) (now : Instant)
    (connect : Connect) (taken : event = .connectCheck request allowed now)
    (accepted : connectChecks state.tables request allowed now = .ok connect) :
    TaskStart state event written id (.connectChecked connect)
  | connectAllocated (id : TaskId) (connect : Connect) (address : Option IPAddress)
    (taken : event = .connectLookup id)
    (found : state.task id = some (.connectChecked connect))
    (free : state.allocationHeld connect.kind connect.server.id = false)
    (accepted : allocate state.tables connect = .ok address) :
    TaskStart state event written id (.connectAllocated connect address)
  | reconnecting (id : TaskId) (connect : Connect) (row : Row) (operation : Operation)
    (taken : event = .connectLookup id)
    (found : state.task id = some (.connectChecked connect))
    (member : row ∈ state.tables.rows) (active : row.state = .active)
    (kind : row.kind = connect.kind) (server : row.serverId = connect.server.id)
    (created : operation = newOperation state.nextUuid (state.nextUuid + 1)
      connect.server.id .provisionDevice row (row.appliedGeneration + 1) 0 connect.now)
    (inserted : operation ∈ written.operations)
    (rewritten : written.rows = (state.tables.writeRow row.id (reconnectedRow connect)).rows)
    (profile : connect.kind = .xrayClient → row.profileId = connect.profile.id) :
    TaskStart state event written id
      (.calling (serviceCall operation (reconnectedRow connect row) connect.profileCode))
  | connecting (id : TaskId) (connect : Connect) (address : Option IPAddress)
    (runtime : Runtime) (row : Row) (operation : Operation)
    (taken : event = .connectCommit id)
    (found : state.task id = some (.connectAllocated connect address))
    (addressed : newRuntime connect address (state.nextUuid + 4) = some runtime)
    (createdRow : row = newRow connect (state.nextUuid + 1) state.nextUuid runtime)
    (created : operation = newOperation (state.nextUuid + 2) (state.nextUuid + 3)
      connect.server.id .provisionDevice row 1 0 connect.now)
    (inserted : operation ∈ written.operations)
    (appended : written.rows = state.tables.rows ++ [row]) :
    TaskStart state event written id
      (.calling (serviceCall operation row connect.profileCode))
  | disconnecting (id : TaskId) (request : DisconnectRequest) (allowed : Bool) (now : Instant)
    (accepted : Disconnect) (operation : Operation)
    (taken : event = .disconnect request allowed now)
    (checks : disconnectChecks state.tables request allowed = .ok accepted)
    (created : operation = newOperation state.nextUuid (state.nextUuid + 1)
      accepted.server.id .revokeDevice accepted.row accepted.row.appliedGeneration 0 now)
    (inserted : operation ∈ written.operations)
    (rewritten : written.rows = (state.tables.writeRow accepted.row.id (revokingRow now)).rows) :
    TaskStart state event written id
      (.calling (serviceCall operation accepted.row (accepted.profile.map Profile.agentCode)))
  | resumed (id : TaskId) (received : AgentAnswer) (old next : Task)
    (taken : event = .answer id received) (found : state.task id = some old)
    (resumes : Resumes received old next) :
    TaskStart state event written id next
  | passReading (id : TaskId) (pass : Pass) (now : Instant) (taken : event = .passBegin pass now)
    (free : ¬ (pass.locked = true ∧ state.reconciliationLockHeld = true)) :
    TaskStart state event written id (.passReading pass)
  | queued (id task : TaskId) (batchSize : Nat) (pass : Pass) (row : Row)
    (fresh : state.nextTask ≤ id) (taken : event = .passRead task batchSize)
    (found : state.task task = some (.passReading pass))
    (member : row ∈ state.tables.rows)
    (selected : isCandidate state.tables pass row = true) :
    TaskStart state event written id
      (.queued (rowCheck state.tables task pass.locked row))
  | probing (id : TaskId) (check : RowCheck) (taken : event = .rowStart id)
    (found : state.task id = some (.queued check))
    (first : state.firstOfPass id check.pass = true) :
    TaskStart state event written id (.probing check)
  | takingOver (id : TaskId) (now : Instant) (check : RowCheck) (operation : Operation)
    (taken : event = .repairBegin id now)
    (found : state.task id = some (.repairing check))
    (running : state.tables.runningOperation check.snapshot.kind check.snapshot.id =
      some operation) :
    TaskStart state event written id
      (.repairCalling check operation.idempotencyKey now)
  | repairing (id : TaskId) (now : Instant) (check : RowCheck) (operation : Operation)
    (taken : event = .repairBegin id now)
    (found : state.task id = some (.repairing check))
    (created : operation = newOperation state.nextUuid (state.nextUuid + 1)
      check.snapshot.serverId check.operationKind check.snapshot check.desiredGeneration 1 now)
    (inserted : operation ∈ written.operations) :
    TaskStart state event written id
      (.repairCalling check operation.idempotencyKey now)
  | sweeping (id sweep : TaskId) (userId : Uuid) :
    TaskStart state event written id (.sweeping sweep userId)
  | cuttingOff (id sweep : TaskId) (userId : Uuid) (taken : event = .sweepMeasure id)
    (exhausted : (usageForUser state.tables userId).isExhausted = true) :
    TaskStart state event written id
      (.cuttingOff sweep userId (usageForUser state.tables userId))
  | granting (id : TaskId) (userId : Uuid) (quotaBytes : Option Nat)
    (taken : event = .grantBegin userId quotaBytes) :
    TaskStart state event written id
      (.granting userId quotaBytes (usageForUser state.tables userId))

def Task.answered : Task → Bool
  | .finalizing _ _ | .recovering _ _ | .repairing _ | .repairFinalizing _ _ _ _ => true
  | _ => false

variable {id : TaskId}

theorem start_answered {state : State} {event : Event} {written : Tables}
    {task : Task} (start : TaskStart state event written id task)
    (answered : task.answered = true) :
    ∃ received old, event = .answer id received ∧ state.task id = some old ∧
      Resumes received old task := by
  cases start with
  | resumed received old _ happened found resumes =>
    exact ⟨received, old, happened, found, resumes⟩
  | _ => cases answered

theorem start_check {state : State} {event : Event} {written : Tables} {task : Task}
    (start : TaskStart state event written id task) (checks : task.rowCheck = some check) :
    (∃ old, state.task id = some old ∧ old.rowCheck = some check ∧
        (old = .queued check → state.firstOfPass id check.pass = true)) ∨
      ∃ passId batchSize pass row, state.nextTask ≤ id ∧ event = .passRead passId batchSize ∧
        state.task passId = some (.passReading pass) ∧ row ∈ state.tables.rows ∧
        isCandidate state.tables pass row = true ∧
        check = rowCheck state.tables passId pass.locked row ∧ task = .queued check := by
  cases start with
  | resumed received old _ _ found resumes =>
    refine Or.inl ⟨old, found, ?_, ?_⟩
    · cases resumes <;> exact checks
    · intro queued
      rw [queued] at resumes
      cases resumes
  | queued passId batchSize pass row fresh taken found member selected =>
    cases checks
    exact Or.inr ⟨passId, batchSize, pass, row, fresh, taken, found, member, selected, rfl, rfl⟩
  | probing queued _ found first =>
    cases checks
    exact Or.inl ⟨_, found, rfl, fun _ => first⟩
  | takingOver now check operation _ found _ | repairing now check operation _ found _ _ =>
    exact Or.inl ⟨_, found, checks, nofun⟩
  | _ => cases checks

/-! ## The entries of a plan -/

section

variable {entry : TaskId × Task}

theorem mem_numberFrom (first : TaskId) {tasks : List Task}
    (member : entry ∈ numberFrom first tasks) :
    entry.2 ∈ tasks ∧ first ≤ entry.1 ∧ entry.1 < first + tasks.length := by
  induction tasks generalizing first with
  | nil => cases member
  | cons head rest ih =>
    rw [length_cons]
    rcases mem_cons.mp member with same | later
    · rw [same]
      exact ⟨mem_cons_self, Nat.le_refl first, Nat.lt_add_of_pos_right (Nat.succ_pos _)⟩
    obtain ⟨spawned, lower, upper⟩ := ih (first + 1) later
    refine ⟨mem_cons_of_mem head spawned, Nat.le_of_succ_le lower, ?_⟩
    rw [← Nat.add_assoc, Nat.add_right_comm]
    exact upper

theorem exists_numbered (first : TaskId) {tasks : List Task} {task : Task}
    (member : task ∈ tasks) : ∃ id, (id, task) ∈ numberFrom first tasks := by
  induction tasks generalizing first with
  | nil => cases member
  | cons head rest ih =>
    rcases mem_cons.mp member with same | later
    · exact ⟨first, mem_cons.mpr (Or.inl (by rw [same]))⟩
    · obtain ⟨id, found⟩ := ih (first + 1) later
      exact ⟨id, mem_cons_of_mem _ found⟩

theorem started_next {tables : Tables} {first : TaskId} {next : Task}
    (member : entry ∈ (⟨tables, some id, some next, []⟩ : Plan).started first) :
    entry = (id, next) := by
  simpa [Plan.started, numberFrom] using member

theorem started_endTask {tables : Tables} {first : TaskId}
    (member : entry ∈ (endTask tables id).started first) : False := by
  simp [endTask, Plan.started, numberFrom] at member

end

section

variable (state : State)

structure StartsOf (event : Event) (planned : Plan) : Prop where
  task : planned.task = event.task
  starts : ∀ entry ∈ planned.started state.nextTask,
    TaskStart state event planned.tables entry.1 entry.2

variable {event : Event} (tables : Tables)

theorem startsOf_endTask
    (own : some id = event.task) : StartsOf state event (endTask tables id) := by
  refine ⟨own, ?_⟩
  intro entry member
  exact (started_endTask member).elim

theorem startsOf_idle (own : none = event.task) :
    StartsOf state event ⟨tables, none, none, []⟩ := by
  refine ⟨own, ?_⟩
  intro entry member
  simp [Plan.started, numberFrom] at member

variable {state}

theorem startsOf_next {next : Task}
    (own : some id = event.task) (start : TaskStart state event tables id next) :
    StartsOf state event ⟨tables, some id, some next, []⟩ := by
  refine ⟨own, ?_⟩
  intro entry member
  rw [started_next member]
  exact start

theorem startsOf_spawned {task : Option TaskId} {spawned : List Task} (own : task = event.task)
    (starts : ∀ id, state.nextTask ≤ id → ∀ spawn ∈ spawned,
      TaskStart state event tables id spawn) :
    StartsOf state event ⟨tables, task, none, spawned⟩ := by
  refine ⟨own, ?_⟩
  intro entry member
  have spawn : entry ∈ numberFrom state.nextTask spawned := by
    cases task <;> simpa [Plan.started] using member
  obtain ⟨listed, fresh, _⟩ := mem_numberFrom state.nextTask spawn
  exact starts entry.1 fresh entry.2 listed

theorem startsOf_spawn {spawn : Task} (own : none = event.task)
    (start : ∀ id, TaskStart state event tables id spawn) :
    StartsOf state event ⟨tables, none, none, [spawn]⟩ :=
  startsOf_spawned _ own fun id _ =>
    forall_mem_singleton.mpr (start id)

variable {planned : Plan} {now : Instant} {task : TaskId}

theorem connectCheck_starts {request : ConnectRequest} {allowed : Bool}
    (success : connectCheck state request allowed now = some planned) :
    StartsOf state (.connectCheck request allowed now) planned := by
  unfold connectCheck at success
  split at success
  · cases success
  split at success
  · rename_i connect accepted
    cases success
    apply startsOf_spawn _ rfl
    intro id
    exact .connectChecked id request allowed now connect rfl accepted
  · cases success
    exact startsOf_idle state _ rfl

theorem connectCommit_starts (success : connectCommit state task = some planned) :
    StartsOf state (.connectCommit task) planned := by
  unfold connectCommit at success
  split at success
  · rename_i connect address found
    split at success
    · cases success
    rename_i runtime addressed
    cases success
    apply startsOf_next _ rfl
    exact .connecting task connect address runtime _ _ rfl found addressed rfl rfl (by simp) rfl
  · cases success

theorem disconnect_starts {request : DisconnectRequest} {allowed : Bool}
    (success : disconnect state request allowed now = some planned) :
    StartsOf state (.disconnect request allowed now) planned := by
  unfold disconnect at success
  split at success
  · cases success
  split at success
  · rename_i accepted checks
    cases success
    apply startsOf_spawn _ rfl
    intro id
    exact .disconnecting id request allowed now accepted _ rfl checks rfl
      (by simp [Tables.addOperation]) rfl
  · cases success
    exact startsOf_idle state _ rfl

theorem answer_starts {received : AgentAnswer}
    (success : answer state task received = some planned) :
    StartsOf state (.answer task received) planned := by
  unfold answer at success
  split at success
  swap
  · cases success
  rename_i old found
  obtain ⟨next, resumes, same⟩ := Option.map_eq_some_iff.mp success
  rw [← same]
  cases next with
  | none => exact startsOf_endTask state _ rfl
  | some next =>
    apply startsOf_next _ rfl
    exact .resumed task received old next rfl found (resume_resumes resumes)

theorem passRead_starts {batchSize : Nat} (success : passRead state task batchSize = some planned) :
    StartsOf state (.passRead task batchSize) planned := by
  unfold passRead at success
  split at success
  swap
  · cases success
  rename_i pass found
  cases success
  apply startsOf_spawned _ rfl
  intro id fresh spawn member
  obtain ⟨row, chosen, same⟩ := mem_map.mp member
  have sorted := mem_of_mem_take chosen
  rw [mem_insertionSort] at sorted
  obtain ⟨rowMember, selected⟩ := mem_filter.mp sorted
  rw [← same]
  exact .queued id task batchSize pass row fresh rfl found rowMember selected

theorem rowStart_starts (success : rowStart state task = some planned) :
    StartsOf state (.rowStart task) planned := by
  unfold rowStart at success
  split at success
  swap
  · cases success
  rename_i check found
  split at success
  · rename_i first
    split at success
    · cases success
      apply startsOf_next _ rfl
      exact .probing task check rfl found first
    · cases success
      exact startsOf_endTask state _ rfl
  · cases success

theorem repairBegin_starts (success : repairBegin state task now = some planned) :
    StartsOf state (.repairBegin task now) planned := by
  unfold repairBegin at success
  split at success
  swap
  · cases success
  rename_i check found
  split at success
  · rename_i operation running
    cases success
    apply startsOf_next _ rfl
    exact .takingOver task now check operation rfl found running
  · cases success
    apply startsOf_next _ rfl
    exact .repairing task now check _ rfl found rfl (by simp [Tables.addOperation])

theorem sweepMeasure_starts (success : sweepMeasure state task = some planned) :
    StartsOf state (.sweepMeasure task) planned := by
  unfold sweepMeasure at success
  split at success
  swap
  · cases success
  rename_i sweep userId found
  split at success
  swap
  · cases success
  dsimp only at success
  split at success
  · rename_i exhausted
    cases success
    apply startsOf_next _ rfl
    exact .cuttingOff task sweep userId rfl exhausted
  · cases success
    exact startsOf_endTask state _ rfl

theorem passBegin_starts {pass : Pass} (success : passBegin state pass now = some planned) :
    StartsOf state (.passBegin pass now) planned := by
  unfold passBegin at success
  split at success
  · cases success
  rename_i free
  cases success
  apply startsOf_spawn _ rfl
  intro id
  exact .passReading id pass now rfl free

theorem plan_starts {event : Event} (success : plan state event = some planned) :
    StartsOf state event planned := by
  cases event with
  | admin | logout | enforceAccessExpiry | recordUsage | forgetReadings =>
    cases success
    exact startsOf_idle state _ rfl
  | connectCheck request allowed now =>
    exact connectCheck_starts success
  | connectLookup task =>
    cases connectLookup_cases success with
    | ended => exact startsOf_endTask state _ rfl
    | reconnected connect row _ _ found member active kind _ server profile _ opened =>
      apply startsOf_next _ rfl
      exact .reconnecting task connect row _ rfl found member active kind server opened
        (by simp [Tables.addOperation]) rfl profile
    | allocated connect address found free accepted =>
      apply startsOf_next _ rfl
      exact .connectAllocated task connect address rfl found free accepted
  | connectCommit task => exact connectCommit_starts success
  | disconnect request allowed now =>
    exact disconnect_starts success
  | answer task received => exact answer_starts success
  | crash task =>
    cases success
    exact startsOf_endTask state _ rfl
  | revokeDevice deviceId now =>
    simp only [plan, revokeDevice] at success
    split at success
    · cases success
    · split at success <;>
      · cases success
        exact startsOf_idle state _ rfl
  | disableUser userId now =>
    cases success
    unfold disableUser
    split <;> exact startsOf_idle state _ rfl
  | eraseAccount userId now =>
    simp only [plan, eraseAccount] at success
    split at success
    · cases success
    · cases success
      exact startsOf_idle state _ rfl
  | passBegin pass now => exact passBegin_starts success
  | passRead task batchSize => exact passRead_starts success
  | rowStart task => exact rowStart_starts success
  | repairBegin task now => exact repairBegin_starts success
  | sweepBegin =>
    cases success
    apply startsOf_spawned _ rfl
    intro id _ spawn member
    obtain ⟨userId, _, same⟩ := mem_map.mp member
    rw [← same]
    exact .sweeping id state.nextTask userId
  | sweepMeasure task => exact sweepMeasure_starts success
  | grantBegin userId quotaBytes =>
    cases success
    apply startsOf_spawn _ rfl
    intro id
    exact .granting id userId quotaBytes rfl
  -- The handlers that end their task whatever they write.
  | finalize task now | recover task now | repairFinalize task | cutOff task now
  | grantCommit task =>
    simp only [plan, finalize, recover, repairFinalize, cutOff, grantCommit] at success
    split at success <;> cases success
    exact startsOf_endTask state _ rfl

end

section

variable {state next : State} {event : Event}

variable {tasks : List (TaskId × Task)} {entry : TaskId × Task} {following : Option Task}

variable {task : Option TaskId}

theorem mem_replaceTask (member : entry ∈ replaceTask tasks task following) :
    (entry ∈ tasks ∧ task ≠ some entry.1) ∨
      ∃ id following', task = some id ∧ following = some following' ∧ entry = (id, following') := by
  cases task with
  | none => exact Or.inl ⟨member, by simp⟩
  | some id =>
    cases following with
    | none =>
      obtain ⟨old, other⟩ := mem_filter.mp member
      refine Or.inl ⟨old, ?_⟩
      intro same
      cases same
      simp at other
    | some following =>
      obtain ⟨old, oldMember, same⟩ := mem_map.mp member
      by_cases own : old.1 = id
      · rw [if_pos own] at same
        exact Or.inr ⟨id, following, rfl, rfl, same.symm⟩
      rw [if_neg own] at same
      subst same
      refine Or.inl ⟨oldMember, ?_⟩
      intro same
      cases same
      exact own rfl

theorem replaceTask_numbered {bound : TaskId}
    (numbered : ∀ entry ∈ tasks, entry.1 < bound)
    (member : entry ∈ replaceTask tasks task following) : entry.1 < bound := by
  cases task with
  | none => exact numbered entry member
  | some id =>
    cases following with
    | none => exact numbered entry (mem_filter.mp member).1
    | some following =>
      obtain ⟨old, oldMember, same⟩ := mem_map.mp member
      have lower := numbered old oldMember
      split at same
      · rename_i own
        rw [← same, ← own]
        exact lower
      · rw [← same]
        exact lower

theorem step_tasks (taken : step state event = some next) (member : entry ∈ next.tasks) :
    (entry ∈ state.tasks ∧ event.task ≠ some entry.1) ∨
      TaskStart state event next.tables entry.1 entry.2 := by
  obtain ⟨planned, success, ended⟩ := step_cases taken
  have starts := plan_starts success
  rcases ended with committed | aborted
  · rw [committed.tasks] at member
    rw [committed.tables, ← starts.task]
    rcases mem_append.mp member with old | spawned
    · rcases mem_replaceTask old with kept | ⟨id, following, own, continued, same⟩
      · exact Or.inl kept
      · refine Or.inr (starts.starts entry ?_)
        simp [Plan.started, own, continued, same]
    · refine Or.inr (starts.starts entry ?_)
      exact mem_append_right _ spawned
  · rw [aborted.tasks] at member
    rcases mem_replaceTask member with kept | ⟨_, _, _, continued, _⟩
    · rw [← starts.task]
      exact Or.inl kept
    · cases continued

variable (state next)

theorem step_others (event : Event) (taken : step state event = some next) (entry : TaskId × Task)
    (member : entry ∈ state.tasks) (other : event.task ≠ some entry.1) : entry ∈ next.tasks := by
  have stays : ∀ following, entry ∈ replaceTask state.tasks event.task following := by
    intro following
    cases own : event.task with
    | none => exact member
    | some id =>
      have differs : entry.1 ≠ id := fun same => other (by rw [own, same])
      cases following with
      | none => exact mem_filter.mpr ⟨member, by simpa using differs⟩
      | some following => exact mem_map.mpr ⟨entry, member, if_neg differs⟩
  obtain ⟨planned, success, ended⟩ := step_cases taken
  have own := (plan_starts success).task
  rcases ended with committed | aborted
  · rw [committed.tasks, own]
    exact mem_append_left _ (stays planned.next)
  · rw [aborted.tasks, own]
    exact stays none

variable {next}

theorem step_nextTask (taken : step state event = some next) : state.nextTask ≤ next.nextTask := by
  obtain ⟨planned, _, committed | aborted⟩ := step_cases taken
  · rw [committed.nextTask]
    exact Nat.le_add_right _ _
  · rw [aborted.nextTask]

theorem step_nextUuid (taken : step state event = some next) :
    next.nextUuid = state.nextUuid + uuidsPerStep := by
  obtain ⟨planned, _, carried⟩ := Option.map_eq_some_iff.mp taken
  subst carried
  unfold State.carryOut
  split <;> rfl

def State.Numbered (state : State) : Prop :=
  ∀ entry ∈ state.tasks, entry.1 < state.nextTask

theorem step_numbered (taken : step state event = some next) (numbered : state.Numbered) :
    next.Numbered := by
  intro entry member
  obtain ⟨planned, success, ended⟩ := step_cases taken
  rcases ended with committed | aborted
  · rw [committed.tasks] at member
    rw [committed.nextTask]
    rcases mem_append.mp member with kept | spawned
    · exact Nat.lt_add_right _ (replaceTask_numbered numbered kept)
    · exact (mem_numberFrom state.nextTask spawned).2.2
  · rw [aborted.tasks] at member
    rw [aborted.nextTask]
    exact replaceTask_numbered numbered member

def State.Ordered (state : State) : Prop :=
  state.tasks.Pairwise fun first second => first.1 < second.1

theorem replaceTask_ordered {following : Option Task}
    (ordered : tasks.Pairwise fun first second => first.1 < second.1) :
    (replaceTask tasks task following).Pairwise fun first second => first.1 < second.1 := by
  cases task with
  | none => exact ordered
  | some id =>
    cases following with
    | none => exact ordered.filter _
    | some following =>
      have named : ∀ entry : TaskId × Task,
          (if entry.1 = id then (id, following) else entry).1 = entry.1 := by
        intro entry
        split
        · rename_i own
          exact own.symm
        · rfl
      refine pairwise_map.mpr (ordered.imp ?_)
      intro first second less
      rw [named, named]
      exact less

theorem numberFrom_ordered (first : TaskId) {tasks : List Task} :
    (numberFrom first tasks).Pairwise fun one other => one.1 < other.1 := by
  induction tasks generalizing first with
  | nil => exact .nil
  | cons task rest ih =>
    refine .cons ?_ (ih (first + 1))
    intro other member
    exact (mem_numberFrom (first + 1) member).2.1

theorem step_ordered (taken : step state event = some next) (numbered : state.Numbered)
    (ordered : state.Ordered) : next.Ordered := by
  unfold State.Ordered
  obtain ⟨planned, success, ended⟩ := step_cases taken
  rcases ended with committed | aborted
  swap
  · rw [aborted.tasks]
    exact replaceTask_ordered ordered
  rw [committed.tasks]
  refine pairwise_append.mpr
    ⟨replaceTask_ordered ordered,
      numberFrom_ordered state.nextTask, ?_⟩
  intro old kept new spawned
  exact Nat.lt_of_lt_of_le
    (replaceTask_numbered numbered kept)
    (mem_numberFrom state.nextTask spawned).2.1

theorem task_of_mem (ordered : state.Ordered) {task : Task}
    (member : (id, task) ∈ state.tasks) : state.task id = some task := by
  have distinct : (state.tasks.map Prod.fst).Nodup :=
    pairwise_map.mpr (ordered.imp fun less => Nat.ne_of_lt less)
  rw [State.task, lookup_of_mem_nodup state.tasks distinct member]
  rfl

variable (next)

theorem step_calls (event : Event) (taken : step state event = some next) :
    ∃ added, next.sent = state.sent ++ added ∧ ∀ envelope ∈ added,
      ∃ task, TaskStart state event next.tables envelope.task task ∧
        task.outgoing = some (envelope.serverId, envelope.call) := by
  obtain ⟨planned, success, ended⟩ := step_cases taken
  have starts := plan_starts success
  rcases ended with committed | aborted
  · refine ⟨_, committed.sent, ?_⟩
    intro envelope member
    obtain ⟨entry, started, mapped⟩ := mem_filterMap.mp member
    obtain ⟨outgoing, calls, same⟩ := Option.map_eq_some_iff.mp mapped
    rw [committed.tables, ← same]
    exact ⟨entry.2, starts.starts entry started, calls⟩
  · refine ⟨[], by rw [aborted.sent, append_nil], ?_⟩
    intro envelope member
    cases member

end

end Nebula.ControlPlane
