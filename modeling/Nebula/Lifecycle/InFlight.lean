import Nebula.ControlPlane.OperationSteps
import Nebula.ControlPlane.TaskSteps

/-!
# One operation in flight

`uq_agent_operations_inflight_target` allows a row one operation that has not ended. The service
does not look for one before it inserts its own: a row that is active, or not there yet, should have
none. A repair breaks that: it opens an operation whatever the row's state is and leaves it running
when the answer is ambiguous.
-/

namespace Nebula.Lifecycle

open Schema Store Runs ControlPlane List

variable (state : State)

/-- An operation that has not ended is for a row that is there and is not active. -/
def OperationsOpen : Prop :=
  ∀ operation ∈ state.tables.operations, operation.state.inflight = true →
    ∃ row ∈ state.tables.rows,
      (row.kind = operation.targetKind ∧ row.id = operation.targetId) ∧ row.state ≠ .active
  deriving Decidable

/-- What a connect or disconnect past its checks inserts meets no other operation in the index. -/
def insertsFreely (event : Event) : Bool :=
  match event with
  | .connectLookup _ | .connectCommit _ | .disconnect _ _ _ =>
    (plan state event).all fun planned =>
      decide (UniqueOn operationInflight planned.tables.operations)
  | _ => true

/-- Repairs begin while their row is not active, and a provision is finalized as applied beside no
other operation of its row. -/
def keepsActiveIdle : Event → Bool
  | .repairBegin task _ =>
    match state.task task with
    | some (.repairing check) =>
      (state.tables.row check.snapshot.id).all fun row => row.state != .active
    | _ => true
  | .finalize task _ =>
    match state.task task with
    | some (.finalizing call applied) =>
      finalState call.request.operationKind applied != .active ||
        state.tables.operations.all fun operation =>
          !(operation.state.inflight && operation.targetId == call.request.targetId) ||
            operation.id == call.operationId
    | _ => true
  | _ => true

structure RowOf (kind : TargetKind) (id serverId : Uuid) (row : Row) : Prop where
  kind : row.kind = kind
  id : row.id = id
  server : row.serverId = serverId

def ChecksPlaced : Prop :=
  ∀ entry ∈ state.tasks, ∀ check, entry.2.rowCheck = some check →
    ∃ row ∈ state.tables.rows,
      RowOf check.snapshot.kind check.snapshot.id check.snapshot.serverId row

structure Open : Prop where
  fresh : ∀ row ∈ state.tables.rows, row.id < state.nextUuid
  checks : ChecksPlaced state
  running : ∀ operation ∈ state.tables.operations, operation.state.inflight = true →
    operation.state = .running
  inflight : ∀ operation ∈ state.tables.operations, operation.state.inflight = true →
    ∃ row ∈ state.tables.rows,
      RowOf operation.targetKind operation.targetId operation.serverId row ∧
        row.state ≠ .active

section

variable (state : State) {next : State} {event : Event} (call : ServiceCall)

theorem RowOf.change (event : Event) {kind : TargetKind} {id serverId : Uuid} {old new : Row}
    (named : RowOf kind id serverId old) (change : RowChange state event old new) :
    RowOf kind id serverId new :=
  let ⟨id, _, _, serverId, kind⟩ := change.identity
  ⟨kind.trans named.kind, id.trans named.id, serverId.trans named.server⟩

variable {operation : Operation}

theorem finishRunning_idle (opened : Open state) {tables : Tables} {row : Row}
    {final : OperationState} {now : Instant} (ended : final.inflight = false)
    (same : tables.operations = state.tables.operations)
    (member : operation ∈ (finishRunning tables row final now).operations)
    (inflight : operation.state.inflight = true) (kind : operation.targetKind = row.kind)
    (target : operation.targetId = row.id) : False := by
  unfold finishRunning at member
  cases running : tables.runningOperation row.kind row.id with
  | none =>
    simp only [running, same] at member
    have state := opened.running operation member inflight
    unfold Tables.runningOperation at running
    rw [same] at running
    have none := find?_eq_none.mp running operation member
    simp [kind, target, state] at none
  | some found =>
    obtain ⟨foundMember, _, foundTarget, foundRunning⟩ := runningOperation_spec running
    simp only [running, Tables.writeOperation, same] at member
    rw [same] at foundMember
    obtain ⟨old, oldMember, written⟩ := mem_map.mp member
    split at written
    · rw [← written] at inflight
      simp [finishOperation, ended] at inflight
    rename_i other
    subst written
    have one : old = found := by
      obtain ⟨row, rowMember, named, _⟩ := opened.inflight old oldMember inflight
      obtain ⟨other, otherMember, otherNamed, _⟩ :=
        opened.inflight found foundMember (by rw [foundRunning]; rfl)
      have one : row = other := row_unique row other rowMember otherMember
        (named.id.trans ((target.trans foundTarget.symm).trans otherNamed.id.symm))
      subst one
      apply state.database.consistent.inflight.eq_of_key oldMember foundMember
      · exact if_pos inflight
      · rw [operationInflight, if_pos (by rw [foundRunning]; rfl), (target.trans
          foundTarget.symm), ← named.server, ← named.kind,
          ← otherNamed.server, ← otherNamed.kind]
    simp [one] at other

theorem change_notActive (opened : Open state) (keeps : keepsActiveIdle state event = true)
    {planned : Plan} (success : plan state event = some planned) {old new : Row}
    (change : RowChange state event old new) (oldMember : old ∈ state.tables.rows)
    (newMember : new ∈ planned.tables.rows) (inactive : old.state ≠ .active)
    (member : operation ∈ planned.tables.operations) (inflight : operation.state.inflight = true)
    (kind : operation.targetKind = old.kind) (target : operation.targetId = old.id) :
    new.state ≠ .active := by
  have present : ∀ id, old.id = id → state.tables.row id = some old := by
    intro id named
    rw [← named]
    exact lookup_of_mem_nodup state.tables.rows state.database.consistent.rowIds oldMember
  cases change with
  | kept => exact inactive
  | reconnected task connect _ _ _ active => exact absurd active inactive
  | marked => exact nofun
  | recovered task now check observed _ happened found own stuck =>
    subst happened
    simp only [plan, recover, found, recoverIfStuck, present _ own, stuck, if_true] at success
    cases success
    exact (finishRunning_idle state opened rfl (by rfl) member inflight kind target).elim
  | finalized _ _ written same =>
    intro active
    rw [active] at written
    rcases finalizes_cases written with
      ⟨task, now, call, applied, happened, found, own, final⟩ |
      ⟨task, check, now, succeeded, applied, happened, found, own, _⟩
    · subst happened
      simp only [plan, finalize, found] at success
      cases success
      cases finalized : finalizeCall state.tables call applied now with
      | none =>
        -- `_lock_triple` found a row gone: nothing is written.
        simp only [endTask, finalized, Option.getD_none] at newMember
        rw [row_unique new old newMember oldMember same.id] at active
        exact inactive active
      | some written =>
        simp only [endTask, finalized, Option.getD_some] at member
        simp only [keepsActiveIdle, found, final, bne_self_eq_false, Bool.false_or,
          all_eq_true] at keeps
        obtain ⟨final, ended, operations⟩ : ∃ final : OperationState, final.inflight = false ∧
            written.operations = updateWhere (fun operation => operation.id == call.operationId)
              (finishOperation final now) state.tables.operations := by
          unfold finalizeCall finalizeProvisionSuccess finalizeRevokeSuccess finalizeFailure
            writeTriple at finalized
          split at finalized <;> split at finalized <;> cases finalized <;> exact ⟨_, rfl, rfl⟩
        rw [operations] at member
        obtain ⟨earlier, earlierMember, kept⟩ := mem_map.mp member
        split at kept
        · rw [← kept] at inflight
          simp [finishOperation, ended] at inflight
        rename_i other
        subst kept
        have running := keeps earlier earlierMember
        simp [inflight, target.trans own.symm] at running
        simp [running] at other
    · subst happened
      simp only [plan, repairFinalize, found, finalizeRepair, present _ own.symm] at success
      cases success
      refine finishRunning_idle state opened ?_ (by rfl) member inflight kind target
      cases succeeded <;> rfl

theorem added_placed {event : Event} (checks : ChecksPlaced state) {rows : List Row}
    {operation : Operation} (added : OperationAdded state event rows operation) :
    operation.state = .running ∧ ∃ row ∈ rows,
      RowOf operation.targetKind operation.targetId operation.serverId row ∧
        (row.state = .active → ∃ task now check, event = .repairBegin task now ∧
          state.task task = some (.repairing check) ∧ row ∈ state.tables.rows ∧
          row.id = check.snapshot.id) := by
  cases added with
  | reconnecting task connect row _ _ member _ _ server rewritten =>
    refine ⟨rfl, reconnectedRow connect row, ?_, ⟨?_, ?_, ?_⟩, ?_⟩
    · rw [rewritten]
      exact mem_writeRow member
    · exact reconnectedRow_identity.kind
    · exact reconnectedRow_identity.id
    · rw [reconnectedRow_identity.serverId]
      exact server
    · unfold reconnectedRow
      split <;> nofun
  | connecting task connect address runtime row _ _ _ created appended =>
    refine ⟨rfl, row, ?_, ⟨rfl, rfl, ?_⟩, ?_⟩
    · rw [appended]
      exact mem_append_right _ mem_cons_self
    · rw [created]
      rfl
    · rw [created]
      nofun
  | disconnecting request allowed now accepted _ _ member _ server rewritten =>
    refine ⟨rfl, revokingRow now accepted.row, ?_, ⟨rfl, rfl, server⟩, nofun⟩
    rw [rewritten]
    exact mem_writeRow member
  | repairing task now check happened found _ unchanged =>
    obtain ⟨row, member, named⟩ := checks _ (task_mem found) check rfl
    exact ⟨rfl, row, unchanged ▸ member, named, fun _ =>
      ⟨task, now, check, happened, found, member, named.id⟩⟩

variable {state}

theorem operations_inflight {tables : Tables} (after : OperationsAfter state event tables)
    (member : operation ∈ tables.operations) (inflight : operation.state.inflight = true) :
    (∃ old ∈ state.tables.operations, old.state = operation.state ∧
        old.targetKind = operation.targetKind ∧ old.targetId = operation.targetId ∧
        old.serverId = operation.serverId ∧ old.idempotencyKey = operation.idempotencyKey) ∨
      OperationAdded state event tables.rows operation := by
  obtain ⟨change, added, operations, changes, inserted, _⟩ := after
  rw [operations] at member
  rcases mem_append.mp member with kept | new
  swap
  · exact Or.inr (inserted operation new)
  obtain ⟨old, oldMember, written⟩ := mem_map.mp kept
  have changed := changes old oldMember
  rw [written] at changed
  refine Or.inl ⟨old, oldMember, ?_⟩
  cases changed with
  | kept | retried => exact ⟨rfl, rfl, rfl, rfl, rfl⟩
  | finished _ final now finished =>
    simp [finishOperation, finished] at inflight

variable (taken : step state event = some next)
include taken

theorem step_inflight (opened : Open state)
    (keeps : keepsActiveIdle state event = true) (member : operation ∈ next.tables.operations)
    (inflight : operation.state.inflight = true) :
    operation.state = .running ∧ ∃ row ∈ next.tables.rows,
      RowOf operation.targetKind operation.targetId operation.serverId row ∧
        row.state ≠ .active := by
  obtain ⟨planned, success, ended⟩ := step_cases taken
  rcases ended with committed | aborted
  swap
  · rw [aborted.tables] at member ⊢
    exact ⟨opened.running operation member inflight, opened.inflight operation member inflight⟩
  rw [committed.tables] at member ⊢
  obtain ⟨rowChange, rowsAdded, rows, rowChanges, _⟩ := written_rows (plan_written success)
  rcases operations_inflight
      (plan_operations success) member inflight with
    ⟨old, oldMember, sameState, sameKind, sameTarget, sameServer, _⟩ | added
  · rw [← sameState] at inflight
    obtain ⟨row, rowMember, named, inactive⟩ := opened.inflight old oldMember inflight
    have rowKept : rowChange row ∈ planned.tables.rows := by
      rw [rows]
      exact mem_append_left _ (mem_map_of_mem rowMember)
    have changed := rowChanges row rowMember
    refine ⟨sameState ▸ opened.running old oldMember inflight, rowChange row, rowKept, ?_, ?_⟩
    · rw [← sameKind, ← sameTarget, ← sameServer]
      exact named.change state event changed
    refine change_notActive state opened keeps success changed rowMember
      rowKept inactive member (sameState ▸ inflight) ?_ ?_
    · rw [← sameKind, named.kind]
    · rw [← sameTarget, named.id]
  · -- The row a new operation is for is there and is not active.
    obtain ⟨running, row, member, named, repairs⟩ := added_placed state opened.checks added
    refine ⟨running, row, member, named, ?_⟩
    intro active
    obtain ⟨task, now, check, happened, found, present, own⟩ := repairs active
    subst happened
    have looked := lookup_of_mem_nodup state.tables.rows state.database.consistent.rowIds present
    rw [own] at looked
    simp [keepsActiveIdle, found, Tables.row, looked, active] at keeps

theorem step_checksPlaced (placed : ChecksPlaced state) :
    ChecksPlaced next := by
  obtain ⟨change, added, rows, changes, _⟩ := step_rows taken
  have carried : ∀ row ∈ state.tables.rows, ∀ kind id serverId, RowOf kind id serverId row →
      ∃ row ∈ next.tables.rows, RowOf kind id serverId row := by
    intro row member kind id serverId named
    refine ⟨change row, ?_, named.change state event (changes row member)⟩
    rw [rows]
    exact mem_append_left _ (mem_map_of_mem member)
  intro entry member check checks
  rcases step_tasks taken member with ⟨old, _⟩ | start
  · obtain ⟨row, rowMember, named⟩ := placed entry old check checks
    exact carried row rowMember _ _ _ named
  rcases start_check start checks with
    ⟨old, found, same, _⟩ | ⟨_, _, _, row, _, _, _, rowMember, _, same, _⟩
  · obtain ⟨row, rowMember, named⟩ := placed _ (task_mem found) check same
    exact carried row rowMember _ _ _ named
  · rw [same]
    exact carried row rowMember _ _ _ ⟨rfl, rfl, rfl⟩

theorem step_open (opened : Open state)
    (keeps : keepsActiveIdle state event = true) : Open next where
  fresh := by
    intro row member
    obtain ⟨change, added, rows, changes, inserted, _⟩ := step_rows taken
    rw [step_nextUuid state taken]
    rw [rows] at member
    rcases mem_append.mp member with kept | new
    · obtain ⟨old, oldMember, same⟩ := mem_map.mp kept
      rw [← same, (changes old oldMember).identity.id]
      exact Nat.lt_add_right _ (opened.fresh old oldMember)
    · obtain ⟨_, _, _, _, _, _, _, created⟩ := inserted row new
      rw [created]
      exact Nat.add_lt_add_left (by decide) _
  checks := step_checksPlaced taken opened.checks
  running := by
    intro operation member inflight
    exact (step_inflight taken opened keeps member inflight).1
  inflight := by
    intro operation member inflight
    exact (step_inflight taken opened keeps member inflight).2

omit taken

theorem added_free (opened : Open state) {rows : List Row} {added : Operation}
    (inserted : OperationAdded state event rows added)
    (service : ∀ task now, event ≠ .repairBegin task now)
    (member : operation ∈ state.tables.operations) (inflight : operation.state.inflight = true) :
    operation.targetId ≠ added.targetId := by
  obtain ⟨row, rowMember, named, inactive⟩ := opened.inflight operation member inflight
  have busy : ∀ other ∈ state.tables.rows, other.state = .active →
      operation.targetId ≠ other.id := by
    intro other otherMember active same
    have one := row_unique row other rowMember otherMember (named.id.trans same)
    exact inactive (one ▸ active)
  cases inserted with
  | reconnecting task connect row _ _ rowMember active => exact busy row rowMember active
  | connecting task connect address runtime row _ _ _ created =>
    intro same
    have used := opened.fresh _ rowMember
    rw [named.id, same, created] at used
    exact absurd used (Nat.not_lt.mpr (Nat.le_add_right _ _))
  | disconnecting request allowed now accepted _ _ rowMember active =>
    exact busy accepted.row rowMember active
  | repairing task now _ happened => exact absurd happened (service task now)

theorem plan_insertsFreely (opened : Open state) {planned : Plan}
    (success : plan state event = some planned)
    (service : ∀ task now, event ≠ .repairBegin task now) :
    UniqueOn operationInflight planned.tables.operations := by
  obtain ⟨change, added, operations, changes, inserted, atMostOne⟩ := plan_operations success
  have keys : ∀ operation ∈ state.tables.operations,
      operationInflight (change operation) = none ∨
        operationInflight (change operation) = operationInflight operation := by
    intro operation member
    have changed := changes operation member
    generalize change operation = new at changed
    cases changed with
    | kept | retried => exact Or.inr rfl
    | finished _ final now ended =>
      left
      simp [operationInflight, finishOperation, ended]
  have kept := state.database.consistent.inflight.map change keys
  rw [operations]
  match added, inserted, atMostOne with
  | [], _, _ => rwa [append_nil]
  | [new], inserted, _ =>
    refine kept.append_singleton new ?_
    intro record member key covered same
    obtain ⟨old, oldMember, written⟩ := mem_map.mp member
    have oldCovered : operationInflight old = some key := by
      rcases keys old oldMember with dropped | unchanged
      · rw [written, covered] at dropped
        cases dropped
      · rw [← unchanged, written]
        exact covered
    obtain ⟨inflight, oldKey⟩ := Option.ite_none_right_eq_some.mp oldCovered
    obtain ⟨_, newKey⟩ := Option.ite_none_right_eq_some.mp same
    refine added_free opened (inserted new mem_cons_self) service oldMember inflight ?_
    exact congrArg (fun key => key.2.2) (Option.some.inj (oldKey.trans newKey.symm))

variable (state)

theorem operationsOpen_of_open (opened : Open state) : OperationsOpen state := by
  intro operation member inflight
  obtain ⟨row, rowMember, named, inactive⟩ := opened.inflight operation member inflight
  exact ⟨row, rowMember, ⟨named.kind, named.id⟩, inactive⟩

end

/-- While `keepsActiveIdle`, operations in flight are for rows that are not active, and no connect
or disconnect past its checks fails on the index. -/
theorem operations_open (start : State) (events : List Event) (idle : start.tasks = [])
    (settled : ∀ operation ∈ start.tables.operations, operation.state.inflight = false)
    (fresh : ∀ row ∈ start.tables.rows, row.id < start.nextUuid)
    (meets : RunMeets step (keepsActiveIdle · ·) events start) :
    AlwaysAlong step OperationsOpen events start ∧
      EachStep step (fun state event _ => insertsFreely state event = true) events start := by
  have opened : Open start := by
    refine ⟨fresh, by simp [ChecksPlaced, idle], ?_, ?_⟩ <;>
    · intro operation member inflight
      rw [settled operation member] at inflight
      cases inflight
  have preserved : ∀ state event next, Open state → keepsActiveIdle state event = true →
      step state event = some next → Open next := by
    intro state event next opened keeps taken
    exact step_open taken opened keeps
  constructor
  · exact alwaysAlong_of_invariant Open OperationsOpen preserved operationsOpen_of_open opened meets
  refine eachStep_of_invariant Open preserved ?_ opened meets
  intro state event next opened _ _
  have free : (∀ task now, event ≠ .repairBegin task now) →
      ((plan state event).all fun planned =>
        decide (UniqueOn operationInflight planned.tables.operations)) = true := by
    intro service
    cases success : plan state event with
    | none => rfl
    | some planned =>
      exact decide_eq_true (plan_insertsFreely opened success service)
  cases event with
  | connectLookup | connectCommit | disconnect => exact free nofun
  | _ => rfl

def repairedThenRemoved : List Event :=
  peerInserted ++ [.answer 0 .ambiguous, .passBegin ⟨.wireguardPeer, true, none⟩ 11, .passRead 1 50,
    .rowStart 2, .answer 2 (.observed .driftDetected none), .repairBegin 2 12,
    .answer 2 (.applied 1), .repairFinalize 2, .disconnect ⟨1, 2, 30, none⟩ true 13]

theorem operations_open_repairedThenRemoved :
    RunMeets step (keepsActiveIdle · ·) repairedThenRemoved smallStart ∧
      AlwaysAlong step OperationsOpen repairedThenRemoved smallStart ∧
      EachStep step (fun state event _ => insertsFreely state event = true) repairedThenRemoved
        smallStart :=
  ⟨by decide +kernel,
    operations_open smallStart repairedThenRemoved rfl (by decide) (by decide)
      (by decide +kernel)⟩

/-- The repair of an active peer is answered ambiguously: its operation stays running beside the
active row. -/
def repairedAmbiguously : List Event :=
  peerConnected ++ [.passBegin ⟨.wireguardPeer, true, none⟩ 20, .passRead 1 50, .rowStart 2,
    .answer 2 (.observed .driftDetected none), .repairBegin 2 21, .answer 2 .ambiguous]

theorem operation_left_repairedAmbiguously :
    ¬ AlwaysAlong step OperationsOpen repairedAmbiguously smallStart ∧
      ¬ EachStep step (fun state event _ => insertsFreely state event = true)
        (repairedAmbiguously ++ [.disconnect ⟨1, 2, 30, none⟩ true 30]) smallStart :=
  ⟨not_alwaysAlong OperationsOpen repairedAmbiguously smallStart (by decide +kernel),
    not_eachStep step
      (by decide +kernel)⟩

end Nebula.Lifecycle
