import Nebula.ControlPlane.RowSteps

/-!
# What one step does to the agent operations

The inversion of the step function on the `agent_operations` rows. An operation is kept,
taken over by a repair or ended; a connect, a disconnect and a repair that finds none
running each insert one, together with the row it is for.
-/

namespace Nebula.ControlPlane

open Schema Store

def retriedOperation (now : Instant) (operation : Operation) : Operation :=
  { operation with
    attemptCount := min (operation.attemptCount + 1) maxAttemptCount
    startedAt := some now }

inductive OperationChange (state : State) (event : Event) : Operation → Operation → Prop
  | kept (operation : Operation) : OperationChange state event operation operation
  | retried (task : TaskId) (now : Instant) (check : RowCheck) (operation : Operation)
    (taken : event = .repairBegin task now)
    (found : state.task task = some (.repairing check))
    (running : state.tables.runningOperation check.snapshot.kind check.snapshot.id =
      some operation) :
    OperationChange state event operation (retriedOperation now operation)
  | finished (operation : Operation) (final : OperationState) (now : Instant)
    (ended : final.inflight = false) :
    OperationChange state event operation (finishOperation final now operation)

inductive OperationAdded (state : State) (event : Event) (rows : List Row) : Operation → Prop
  | reconnecting (task : TaskId) (connect : Connect) (row : Row)
    (taken : event = .connectLookup task)
    (found : state.task task = some (.connectChecked connect))
    (member : row ∈ state.tables.rows) (active : row.state = .active)
    (kind : row.kind = connect.kind) (server : row.serverId = connect.server.id)
    (rewritten : rows = (state.tables.writeRow row.id (reconnectedRow connect)).rows) :
    OperationAdded state event rows
      (newOperation state.nextUuid (state.nextUuid + 1) connect.server.id .provisionDevice row
        (row.appliedGeneration + 1) 0 connect.now)
  | connecting (task : TaskId) (connect : Connect) (address : Option IPAddress)
    (runtime : Runtime) (row : Row) (taken : event = .connectCommit task)
    (found : state.task task = some (.connectAllocated connect address))
    (addressed : newRuntime connect address (state.nextUuid + 4) = some runtime)
    (created : row = newRow connect (state.nextUuid + 1) state.nextUuid runtime)
    (appended : rows = state.tables.rows ++ [row]) :
    OperationAdded state event rows
      (newOperation (state.nextUuid + 2) (state.nextUuid + 3) connect.server.id
        .provisionDevice row 1 0 connect.now)
  | disconnecting (request : DisconnectRequest) (allowed : Bool) (now : Instant)
    (accepted : Disconnect) (taken : event = .disconnect request allowed now)
    (checks : disconnectChecks state.tables request allowed = .ok accepted)
    (member : accepted.row ∈ state.tables.rows) (active : accepted.row.state = .active)
    (server : accepted.row.serverId = accepted.server.id)
    (rewritten : rows = (state.tables.writeRow accepted.row.id (revokingRow now)).rows) :
    OperationAdded state event rows
      (newOperation state.nextUuid (state.nextUuid + 1) accepted.server.id .revokeDevice
        accepted.row accepted.row.appliedGeneration 0 now)
  | repairing (task : TaskId) (now : Instant) (check : RowCheck)
    (taken : event = .repairBegin task now)
    (found : state.task task = some (.repairing check))
    (idle : state.tables.runningOperation check.snapshot.kind check.snapshot.id = none)
    (unchanged : rows = state.tables.rows) :
    OperationAdded state event rows
      (newOperation state.nextUuid (state.nextUuid + 1) check.snapshot.serverId
        check.operationKind check.snapshot check.desiredGeneration 1 now)

def OperationsAfter (state : State) (event : Event) (tables : Tables) : Prop :=
  ∃ change added,
    tables.operations = state.tables.operations.map change ++ added ∧
    (∀ operation ∈ state.tables.operations,
      OperationChange state event operation (change operation)) ∧
    (∀ operation ∈ added, OperationAdded state event tables.rows operation) ∧
    added.length ≤ 1

section

variable {state : State} (event : Event) {tables : Tables}

theorem operationsAfter_of_eq
    (same : tables.operations = state.tables.operations) : OperationsAfter state event tables := by
  refine ⟨id, [], by simp [same], ?_, by simp, by simp⟩
  intro operation _
  exact .kept operation

theorem operationsAfter_writeOperation {id : Uuid}
    {write : Operation → Operation} (same : tables.operations = state.tables.operations)
    (changes : ∀ operation ∈ state.tables.operations, operation.id = id →
      OperationChange state event operation (write operation)) :
    OperationsAfter state event (tables.writeOperation id write) := by
  refine ⟨fun operation => if operation.id == id then write operation else operation, [], ?_, ?_,
    by simp, by simp⟩
  · simp [Tables.writeOperation, updateWhere, same]
  intro operation member
  dsimp only
  split
  · rename_i own
    exact changes operation member (by simpa using own)
  · exact .kept operation

theorem operationsAfter_append {operation : Operation}
    (appended : tables.operations = state.tables.operations ++ [operation])
    (added : OperationAdded state event tables.rows operation) :
    OperationsAfter state event tables := by
  refine ⟨id, [operation], by simp [appended], ?_, ?_, by simp⟩
  · intro kept _
    exact .kept kept
  · intro new member
    rw [List.mem_singleton.mp member]
    exact added

theorem runningOperation_spec {tables : Tables} {kind : TargetKind} {targetId : Uuid}
    {operation : Operation} (running : tables.runningOperation kind targetId = some operation) :
    operation ∈ tables.operations ∧ operation.targetKind = kind ∧
      operation.targetId = targetId ∧ operation.state = .running := by
  have member := List.mem_of_find?_eq_some running
  have selected := List.find?_some running
  simp only [Bool.and_eq_true, beq_iff_eq] at selected
  exact ⟨member, selected.1.1, selected.1.2, selected.2⟩

end

section

variable {state : State}

theorem finishRunning_operations {event : Event} {tables : Tables} {row : Row}
    {final : OperationState} {now : Instant} (ended : final.inflight = false)
    (same : tables.operations = state.tables.operations) :
    OperationsAfter state event (finishRunning tables row final now) := by
  unfold finishRunning
  split
  · apply operationsAfter_writeOperation event same
    intro operation _ _
    exact .finished operation final now ended
  · exact operationsAfter_of_eq event same

variable {task : TaskId} {planned : Plan}

theorem repairBegin_operations {now : Instant}
    (success : repairBegin state task now = some planned) :
    OperationsAfter state (.repairBegin task now) planned.tables := by
  unfold repairBegin at success
  split at success
  swap
  · cases success
  rename_i check found
  split at success
  · rename_i operation running
    cases success
    apply operationsAfter_writeOperation _ rfl
    intro other otherMember same
    rw [List.inj_on_of_nodup_map state.database.consistent.operationIds otherMember
      (runningOperation_spec running).1 same]
    exact .retried task now check operation rfl found running
  · rename_i idle
    cases success
    exact operationsAfter_append _ rfl (.repairing task now check rfl found idle rfl)

variable {event : Event}

theorem written_operations {tables : Tables}
    (written : Written state event tables) : OperationsAfter state event tables := by
  cases written with
  | administered change =>
    exact operationsAfter_of_eq _ (by cases change <;> rfl)
  | lookedUp task planned success =>
    cases connectLookup_cases success with
    | ended | allocated => exact operationsAfter_of_eq _ rfl
    | reconnected connect row _ _ found member active kind _ server _ _ opened =>
      subst opened
      exact operationsAfter_append _ rfl
        (.reconnecting task connect row rfl found member active kind server rfl)
  | connected task planned success =>
    unfold connectCommit at success
    split at success
    · rename_i connect address found
      split at success
      · cases success
      rename_i runtime addressed
      cases success
      exact operationsAfter_append _ rfl
        (.connecting task connect address runtime _ rfl found addressed rfl rfl)
    · cases success
  | disconnected request allowed now planned success =>
    unfold disconnect at success
    split at success
    · cases success
    split at success
    · rename_i accepted checks
      obtain ⟨deviceId, profileId, live, active, _⟩ := disconnectChecks_spec checks
      obtain ⟨member, _, _, server, _⟩ := liveRowOf_spec live
      cases success
      exact operationsAfter_append _ rfl
        (.disconnecting request allowed now accepted rfl checks member active server rfl)
    · cases success
      exact operationsAfter_of_eq _ rfl
  | finalized task now call applied found =>
    unfold finalizeCall
    split <;>
    · change OperationsAfter state _ ((writeTriple _ call _ _ (finishOperation _ now)).getD _)
      unfold writeTriple
      split
      · refine operationsAfter_writeOperation _ rfl ?_
        intro operation _ _
        exact .finished operation _ now rfl
      · exact operationsAfter_of_eq _ rfl
  | recovered task now check observed found =>
    unfold recoverIfStuck
    repeat' split
    · exact operationsAfter_of_eq _ rfl
    · exact finishRunning_operations rfl rfl
    · exact operationsAfter_of_eq _ rfl
  | repairBegun task now planned success =>
    exact repairBegin_operations success
  | repaired task check now succeeded applied found =>
    unfold finalizeRepair
    split
    · exact operationsAfter_of_eq _ rfl
    · exact finishRunning_operations (by cases succeeded <;> rfl) rfl
  | spent task sweep now userId account found =>
    refine operationsAfter_of_eq _ ?_
    unfold cutOffTables
    split
    · rfl
    · split <;> rfl
  | _ => exact operationsAfter_of_eq _ rfl

theorem plan_operations (success : plan state event = some planned) :
    OperationsAfter state event planned.tables :=
  written_operations (plan_written success)

theorem step_operations {next : State} (taken : step state event = some next) :
    OperationsAfter state event next.tables :=
  written_operations (step_written taken)

end

end Nebula.ControlPlane
