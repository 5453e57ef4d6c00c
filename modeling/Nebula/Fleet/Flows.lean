import Nebula.Fleet.Steps

/-!
# Provisions and removals under way

What the control plane and the agents work towards, and how it begins. A provision is
under way while a task or a call works towards it; a removal also while its row is
`revoking`.
-/

namespace Nebula.Fleet

open Schema ControlPlane List

def rowFlow (row : Row) : Flow :=
  ⟨row.serverId, row.id, row.identity⟩

def revokingFlows (tables : Tables) : List Flow :=
  (tables.rows.filter fun row => row.state == .revoking).map rowFlow

def World.removals (world : World) : List Flow :=
  flowsOf .revokeDevice world.flows ++ revokingFlows world.plane.tables

def plannedFlows (state : State) (planned : Plan) : List (OperationKind × Flow) :=
  (planned.started state.nextTask).filterMap fun entry => taskFlow entry.2

def Flow.Conflicts (first second : Flow) : Prop :=
  first.targetId = second.targetId ∨
    (first.serverId = second.serverId ∧ first.identity = second.identity)
  deriving Decidable

section

variable {world next : World}

theorem mem_flowsOf {kind : OperationKind} {flows : List (OperationKind × Flow)} {flow : Flow} :
    flow ∈ flowsOf kind flows ↔ (kind, flow) ∈ flows := by
  simp [flowsOf]

theorem mem_revokingFlows {tables : Tables} {flow : Flow} :
    flow ∈ revokingFlows tables ↔
      ∃ row ∈ tables.rows, row.state = .revoking ∧ rowFlow row = flow := by
  simp [revokingFlows, and_assoc]

theorem mem_flows {world : World} {flow : OperationKind × Flow} :
    flow ∈ world.flows ↔
      (∃ entry ∈ world.plane.tasks, taskFlow entry.2 = some flow) ∨
        ∃ envelope ∈ world.underWay, envelopeFlow envelope = some flow := by
  simp only [World.flows, mem_append, mem_filterMap]

variable {envelope : Envelope} {request : AgentRequest} {flow : OperationKind × Flow}

theorem flow_of_call (underWay : envelope ∈ world.underWay)
    (call : envelope.call = .operate request) :
    (request.operationKind, requestFlow envelope.serverId request) ∈ world.flows := by
  refine mem_flows.mpr (Or.inr ⟨envelope, underWay, ?_⟩)
  simp [envelopeFlow, call]

theorem provision_of_call (underWay : envelope ∈ world.underWay)
    (call : envelope.call = .operate request)
    (provides : request.operationKind = .provisionDevice) :
    requestFlow envelope.serverId request ∈ world.provisions := by
  refine mem_flowsOf.mpr ?_
  rw [← provides]
  exact flow_of_call underWay call

theorem mem_removals {world : World} {flow : Flow} :
    flow ∈ world.removals ↔
      (.revokeDevice, flow) ∈ world.flows ∨ flow ∈ revokingFlows world.plane.tables := by
  simp only [World.removals, mem_append, mem_flowsOf]

theorem provision_of_task {entry : TaskId × Task} (member : entry ∈ world.plane.tasks) {flow : Flow}
    (works : taskFlow entry.2 = some (.provisionDevice, flow)) : flow ∈ world.provisions :=
  mem_flowsOf.mpr (mem_flows.mpr (Or.inl ⟨entry, member, works⟩))

theorem removal_of_task {entry : TaskId × Task} (member : entry ∈ world.plane.tasks) {flow : Flow}
    (works : taskFlow entry.2 = some (.revokeDevice, flow)) : flow ∈ world.removals :=
  mem_removals.mpr
    (Or.inl (mem_flows.mpr (Or.inl ⟨entry, member, works⟩)))

theorem removal_of_call (underWay : envelope ∈ world.underWay)
    (call : envelope.call = .operate request) (removes : request.operationKind = .revokeDevice) :
    requestFlow envelope.serverId request ∈ world.removals := by
  refine mem_removals.mpr (Or.inl ?_)
  rw [← removes]
  exact flow_of_call underWay call

theorem removal_of_revoking {row : Row} (member : row ∈ world.plane.tables.rows)
    (revoking : row.state = .revoking) : rowFlow row ∈ world.removals :=
  mem_removals.mpr
    (Or.inr (mem_revokingFlows.mpr ⟨row, member, revoking, rfl⟩))

theorem outgoing_flow {task : Task}
    (calls : task.outgoing = some (envelope.serverId, envelope.call))
    (works : envelopeFlow envelope = some flow) : taskFlow task = some flow := by
  obtain ⟨id, serverId, call⟩ := envelope
  cases task with
  | calling | repairCalling =>
    cases calls
    exact works
  | probing check =>
    cases calls
    cases works
  | _ => cases calls

theorem rowCheck_taskFlow (task : Task) {check : RowCheck} (checks : task.rowCheck = some check) :
    taskFlow task = some (check.operationKind, checkFlow check) := by
  cases task <;> cases checks <;> rfl

theorem resumes_flow {received : AgentAnswer} {old following : Task}
    (resumes : Resumes received old following) : taskFlow following = taskFlow old := by
  cases resumes <;> rfl

theorem advances_flows {event : Event} (advances : Advances world next event)
    (member : flow ∈ next.flows) :
    flow ∈ world.flows ∨ ∃ planned, plan world.plane event = some planned ∧
      Committed world.plane next.plane planned ∧ flow ∈ plannedFlows world.plane planned := by
  obtain ⟨planned, success, ended⟩ := step_cases advances.taken
  rcases mem_flows.mp member with ⟨entry, present, works⟩ | ⟨envelope, present, works⟩
  · have kept : entry ∈ world.plane.tasks → flow ∈ world.flows := by
      intro old
      exact mem_flows.mpr (Or.inl ⟨entry, old, works⟩)
    rcases ended with committed | aborted
    · have started : entry ∈ planned.started world.plane.nextTask →
          flow ∈ plannedFlows world.plane planned := by
        intro new
        exact mem_filterMap.mpr ⟨entry, new, works⟩
      rw [committed.tasks] at present
      rcases mem_append.mp present with replaced | spawned
      · rcases mem_replaceTask replaced with ⟨old, _⟩ | ⟨id, following, own, goesOn, same⟩
        · exact Or.inl (kept old)
        · exact Or.inr ⟨planned, success, committed,
            started (by simp [Plan.started, own, goesOn, same])⟩
      · exact Or.inr ⟨planned, success, committed, started (mem_append_right _ spawned)⟩
    · rw [aborted.tasks] at present
      rcases mem_replaceTask present with ⟨old, _⟩ | ⟨_, _, _, goesOn, _⟩
      · exact Or.inl (kept old)
      · cases goesOn
  · rcases advances_underWay advances present with old | new
    · exact Or.inl (mem_flows.mpr (Or.inr ⟨envelope, old, works⟩))
    rcases ended with committed | aborted
    · rw [committed.sent, drop_left] at new
      obtain ⟨entry, started, mapped⟩ := mem_filterMap.mp new
      obtain ⟨outgoing, calls, same⟩ := Option.map_eq_some_iff.mp mapped
      refine Or.inr ⟨planned, success, committed, mem_filterMap.mpr ⟨entry, started, ?_⟩⟩
      refine outgoing_flow ?_ works
      rw [calls, ← same]
    · rw [aborted.sent, drop_length] at new
      cases new

theorem idle_flows {event : WorldEvent} (taken : world.step event = some next)
    (plane : next.plane = world.plane) (member : flow ∈ next.flows) : flow ∈ world.flows := by
  rcases mem_flows.mp member with ⟨entry, present, works⟩ | ⟨envelope, present, works⟩
  · rw [plane] at present
    exact mem_flows.mpr (Or.inl ⟨entry, present, works⟩)
  · exact mem_flows.mpr (Or.inr ⟨envelope, step_underWay_of_plane taken plane present, works⟩)

end

inductive Begun (state : State) (event : Event) (written : Tables) : OperationKind → Flow → Prop
  | reconnecting (connect : Connect) (row : Row) (member : row ∈ state.tables.rows)
    (rewritten : written.rows = (state.tables.writeRow row.id (reconnectedRow connect)).rows) :
    Begun state event written .provisionDevice (rowFlow (reconnectedRow connect row))
  | connecting (row : Row) (applying : row.state = .applying)
    (appended : written.rows = state.tables.rows ++ [row]) :
    Begun state event written .provisionDevice (rowFlow row)
  | disconnecting (now : Instant) (row : Row) (member : row ∈ state.tables.rows)
    (active : row.state = .active)
    (rewritten : written.rows = (state.tables.writeRow row.id (revokingRow now)).rows) :
    Begun state event written .revokeDevice (rowFlow row)
  | checking (task : TaskId) (batchSize : Nat) (row : Row)
    (taken : event = .passRead task batchSize) (member : row ∈ state.tables.rows)
    (candidate : row.state.candidate = true) :
    Begun state event written
      (if row.state = .revoking then .revokeDevice else .provisionDevice) (rowFlow row)

section

variable {state : State} (event : Event) {written : Tables}

theorem rowCheck_flow (tables : Tables) (pass : TaskId) (locked : Bool) (row : Row) :
    taskFlow (.queued (rowCheck tables pass locked row)) =
      some (if row.state = .revoking then .revokeDevice else .provisionDevice, rowFlow row) := by
  by_cases revoking : row.state = .revoking <;>
    simp [taskFlow, RowCheck.operationKind, RowCheck.wantsPresent, rowCheck, checkFlow, rowFlow,
      revoking]

theorem start_flow {id : TaskId} {task : Task} (start : TaskStart state event written id task)
    {kind : OperationKind} {flow : Flow} (works : taskFlow task = some (kind, flow)) :
    (∃ old, (id, old) ∈ state.tasks ∧ taskFlow old = some (kind, flow)) ∨
      Begun state event written kind flow := by
  have carried : ∀ old, state.task id = some old → taskFlow old = some (kind, flow) →
      ∃ old, (id, old) ∈ state.tasks ∧ taskFlow old = some (kind, flow) := by
    intro old found same
    exact ⟨old, task_mem found, same⟩
  cases start with
  | reconnecting connect row operation _ _ member _ _ server created _ rewritten =>
    subst created
    cases works
    have begun : Begun state event written .provisionDevice
        (rowFlow (reconnectedRow connect row)) := .reconnecting connect row member rewritten
    rw [rowFlow, reconnectedRow_identity.serverId, server] at begun
    exact Or.inr begun
  | connecting connect address runtime row operation _ _ _ createdRow created _ appended =>
    subst created
    cases works
    subst createdRow
    exact Or.inr (.connecting _ rfl appended)
  | disconnecting request allowed now accepted operation _ checks created _ rewritten =>
    obtain ⟨deviceId, profileId, live, active, _⟩ := disconnectChecks_spec checks
    obtain ⟨member, _, _, server, _⟩ := liveRowOf_spec live
    subst created
    cases works
    have begun : Begun state event written .revokeDevice (rowFlow accepted.row) :=
      .disconnecting now accepted.row member active rewritten
    rw [rowFlow, server] at begun
    exact Or.inr begun
  | resumed received old _ _ found resumes =>
    rw [resumes_flow resumes] at works
    exact Or.inl (carried old found works)
  | queued task batchSize pass row _ happened _ member selected =>
    rw [rowCheck_flow] at works
    cases works
    simp only [isCandidate, Bool.and_eq_true] at selected
    exact Or.inr (.checking task batchSize row happened member selected.1.2)
  | probing check _ found | takingOver now check operation _ found _
  | repairing now check operation _ found _ _ => exact Or.inl (carried _ found works)
  | _ => cases works

end

end Nebula.Fleet
