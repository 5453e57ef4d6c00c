import Nebula.ControlPlane.Reconciliation
import Nebula.ControlPlane.Usage

/-!
# The control plane as one transition system

An event is one transaction, one answer of the agent client or one crash. What
the environment chooses is an argument of the event: who asks for what, the
clock, the rate limiter's verdict and the agent's answer.
-/

namespace Nebula.ControlPlane

open Schema Store

inductive Event where
  | admin (change : AdminChange)
  | connectCheck (request : ConnectRequest) (allowed : Bool) (now : Instant)
  | connectLookup (task : TaskId)
  | connectCommit (task : TaskId)
  | disconnect (request : DisconnectRequest) (allowed : Bool) (now : Instant)
  | answer (task : TaskId) (answer : AgentAnswer)
  | finalize (task : TaskId) (now : Instant)
  | crash (task : TaskId)
  | revokeDevice (deviceId : Uuid) (now : Instant)
  | disableUser (userId : Uuid) (now : Instant)
  | logout (deviceId : Uuid) (now : Instant)
  | eraseAccount (userId : Uuid) (now : Instant)
  | enforceAccessExpiry (now : Instant)
  | passBegin (pass : Pass) (now : Instant)
  | passRead (task : TaskId) (batchSize : Nat)
  | rowStart (task : TaskId)
  | recover (task : TaskId) (now : Instant)
  | repairBegin (task : TaskId) (now : Instant)
  | repairFinalize (task : TaskId)
  | recordUsage (samples : List UsageSample)
  | forgetReadings (gone : List (Protocol × Identity)) (collectedAt : Instant)
  | sweepBegin
  | sweepMeasure (task : TaskId)
  | cutOff (task : TaskId) (now : Instant)
  | grantBegin (userId : Uuid) (quotaBytes : Option Nat)
  | grantCommit (task : TaskId)

def Event.task : Event → Option TaskId
  | .connectLookup task | .connectCommit task | .answer task _ | .finalize task _
  | .crash task | .passRead task _ | .rowStart task | .recover task _
  | .repairBegin task _ | .repairFinalize task | .sweepMeasure task | .cutOff task _
  | .grantCommit task => some task
  | _ => none

def plan (state : State) : Event → Option Plan
  | .admin change => some (admin state change)
  | .connectCheck request allowed now => connectCheck state request allowed now
  | .connectLookup task => connectLookup state task
  | .connectCommit task => connectCommit state task
  | .disconnect request allowed now => disconnect state request allowed now
  | .answer task received => answer state task received
  | .finalize task now => finalize state task now
  | .crash task => some (endTask state.tables task)
  | .revokeDevice deviceId now => revokeDevice state deviceId now
  | .disableUser userId now => some (disableUser state userId now)
  | .logout deviceId now => some (logout state deviceId now)
  | .eraseAccount userId now => eraseAccount state userId now
  | .enforceAccessExpiry now => some (enforceAccessExpiry state now)
  | .passBegin pass now => passBegin state pass now
  | .passRead task batchSize => passRead state task batchSize
  | .rowStart task => rowStart state task
  | .recover task now => recover state task now
  | .repairBegin task now => repairBegin state task now
  | .repairFinalize task => repairFinalize state task
  | .recordUsage samples => some (recordUsage state samples)
  | .forgetReadings gone collectedAt => some (forgetReadings state gone collectedAt)
  | .sweepBegin => some (sweepBegin state)
  | .sweepMeasure task => sweepMeasure state task
  | .cutOff task now => cutOff state task now
  | .grantBegin userId quotaBytes => some (grantBegin state userId quotaBytes)
  | .grantCommit task => grantCommit state task

def step (state : State) (event : Event) : Option State :=
  (plan state event).map state.carryOut

structure Committed (state next : State) (planned : Plan) : Prop where
  tables : next.tables = planned.tables
  tasks : next.tasks = replaceTask state.tasks planned.task planned.next ++
    numberFrom state.nextTask planned.spawned
  sent : next.sent = state.sent ++ envelopes (planned.started state.nextTask)
  nextTask : next.nextTask = state.nextTask + planned.spawned.length

structure Aborted (state next : State) (planned : Plan) : Prop where
  tables : next.tables = state.tables
  tasks : next.tasks = replaceTask state.tasks planned.task none
  sent : next.sent = state.sent
  nextTask : next.nextTask = state.nextTask

theorem step_cases {state next : State} {event : Event} (taken : step state event = some next) :
    ∃ planned, plan state event = some planned ∧
      (Committed state next planned ∨ Aborted state next planned) := by
  obtain ⟨planned, success, carried⟩ := Option.map_eq_some_iff.mp taken
  refine ⟨planned, success, ?_⟩
  subst carried
  unfold State.carryOut
  split
  · rename_i database committed
    exact Or.inl ⟨commit_tables committed, rfl, rfl, rfl⟩
  · exact Or.inr ⟨rfl, rfl, rfl, rfl⟩

theorem step_commits (state : State) (event : Event) (planned : Plan)
    (success : plan state event = some planned) (consistent : planned.tables.Consistent) :
    ∃ next, step state event = some next ∧ Committed state next planned := by
  refine ⟨state.carryOut planned, by rw [step, success]; rfl, ?_⟩
  have committed : commit planned.tables = some ⟨planned.tables, consistent⟩ := dif_pos consistent
  unfold State.carryOut
  rw [committed]
  exact ⟨rfl, rfl, rfl, rfl⟩

theorem step_committed {state : State} {event : Event} {planned : Plan} {next : State}
    (success : plan state event = some planned) (consistent : planned.tables.Consistent)
    (taken : step state event = some next) : Committed state next planned := by
  obtain ⟨other, otherTaken, committed⟩ := step_commits state event planned success consistent
  rw [taken] at otherTaken
  cases otherTaken
  exact committed

theorem task_mem {state : State} {id : TaskId} {task : Task} (found : state.task id = some task) :
    (id, task) ∈ state.tasks := by
  obtain ⟨entry, looked, second⟩ := Option.map_eq_some_iff.mp found
  obtain ⟨member, first⟩ := lookup_mem looked
  rw [← first, ← second]
  exact member

def smallTables : Tables where
  users := [⟨1, .active, none, none, 0, none⟩]
  devices := [⟨2, 1, .active⟩]
  permissions := [⟨1, 4, .enabled, none⟩, ⟨1, 5, .enabled, none⟩]
  assignments := [⟨1, 3, .active, none⟩]
  servers := [⟨3, 30, .active, 10, some ⟨.v4, 0, 29⟩, some ⟨.v4, 1⟩⟩]
  profiles := [⟨4, 40, none, .implemented⟩, ⟨5, 50, none, .implemented⟩]
  capabilities := [⟨3, 4, .enabled, none⟩, ⟨3, 5, .enabled, none⟩]
  rows := []
  credentials := []
  operations := []
  usage := []

def startOf (tables : Tables) (consistent : tables.Consistent) : State where
  database := ⟨tables, consistent⟩
  tasks := []
  nextTask := 0
  nextUuid := 100
  sent := []

def smallStart : State :=
  startOf smallTables (by decide)

def peerInserted : List Event :=
  [.connectCheck ⟨1, 2, 30, 40, some 7⟩ true 10, .connectLookup 0, .connectCommit 0]

def peerConnected : List Event :=
  peerInserted ++ [.answer 0 (.applied 1), .finalize 0 11]

end Nebula.ControlPlane
