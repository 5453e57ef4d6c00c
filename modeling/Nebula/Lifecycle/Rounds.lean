import Nebula.ControlPlane.CredentialSteps
import Nebula.Lifecycle.Passes

/-!
# Every candidate in its turn

A pass takes the first rows in the order of `updated_at`, up to its batch size. A row only moves
back in that order when something is written to it, and most outcomes of a check write nothing.
-/

namespace Nebula.Lifecycle

open Schema Store Runs ControlPlane
open List hiding isEmpty_iff lookup

def candidateRows (tables : Tables) (kind : TargetKind) : List Row :=
  tables.rows.filter (isCandidate tables ⟨kind, true, none⟩)

/-- What a pass does with the rows it has read; an exception ends the row in hand. -/
def worksThrough (state : State) : Event → Bool
  | .rowStart _ | .answer _ _ | .recover _ _ | .repairBegin _ _ | .repairFinalize _ => true
  | .crash task => (state.task task).any fun running => (reconciling running).isSome
  | _ => false

def opensPass (kind : TargetKind) (batchSize : Nat) (state : State) : List Event → Bool
  | .passBegin pass _ :: .passRead task size :: _ =>
    pass.kind == kind && pass.target.isNone && task == state.nextTask && size == batchSize
  | _ => false

/-- One pass from start to last row with nothing else under way; `none` for any other events. -/
def runPass (kind : TargetKind) (batchSize : Nat) (state : State) (events : List Event) :
    Option State :=
  if state.tasks.isEmpty && opensPass kind batchSize state events then
    (runEvents step (events.take 2) state).bind fun reading =>
      if RunMeets step (worksThrough · ·) (events.drop 2)
          reading then
        (runEvents step (events.drop 2) reading).filter fun final => final.tasks.isEmpty
      else none
  else none

def checkedBy (state : State) : Event → Option Uuid
  | .rowStart task =>
    match state.task task with
    | some (.queued check) => some check.snapshot.id
    | _ => none
  | _ => none

def checkedRows : List Event → State → List Uuid
  | [], _ => []
  | event :: rest, state =>
    (checkedBy state event).toList ++ ((step state event).map (checkedRows rest)).getD []

def passesNeeded (count batchSize : Nat) : Nat :=
  (count + batchSize - 1) / batchSize

/-- Whatever the agents answer, so many consecutive passes check every row that is a
candidate now. -/
def EveryCandidateChecked (state : State) (kind : TargetKind) (batchSize : Nat) : Prop :=
  ∀ passes final,
    passes.length = passesNeeded (candidateRows state.tables kind).length batchSize →
    runEvents (runPass kind batchSize) passes state = some final →
    ∀ row ∈ candidateRows state.tables kind, row.id ∈ checkedRows passes.flatten state

section

variable {state : State} (kind : TargetKind) {batchSize : Nat}

theorem checkedRows_append {earlier : List Event} (later : List Event) {middle : State}
    (run : runEvents step earlier state = some middle) :
    checkedRows (earlier ++ later) state =
      checkedRows earlier state ++ checkedRows later middle := by
  induction earlier generalizing state with
  | nil =>
    cases run
    rfl
  | cons event rest ih =>
    obtain ⟨next, taken, run⟩ := Option.bind_eq_some_iff.mp run
    simp [checkedRows, taken, ih run]

theorem runPass_spec {events : List Event} {final : State}
    (ran : runPass kind batchSize state events = some final) :
    state.tasks = [] ∧ ∃ pass now later middle reading,
      events = .passBegin pass now :: .passRead state.nextTask batchSize :: later ∧
      pass.kind = kind ∧ pass.target = none ∧
      step state (.passBegin pass now) = some middle ∧
      step middle (.passRead state.nextTask batchSize) = some reading ∧
      RunMeets step (worksThrough · ·) later reading ∧
      runEvents step later reading = some final ∧ final.tasks = [] := by
  unfold runPass at ran
  split at ran
  swap
  · cases ran
  rename_i opened
  simp only [Bool.and_eq_true, List.isEmpty_iff] at opened
  obtain ⟨idle, opens⟩ := opened
  refine ⟨idle, ?_⟩
  unfold opensPass at opens
  split at opens
  swap
  · cases opens
  rename_i pass now task size later
  simp only [Bool.and_eq_true, beq_iff_eq, Option.isNone_iff_eq_none] at opens
  obtain ⟨⟨⟨sameKind, whole⟩, rfl⟩, rfl⟩ := opens
  obtain ⟨reading, first, rest⟩ := Option.bind_eq_some_iff.mp ran
  obtain ⟨meets, rest⟩ := Option.ite_none_right_eq_some.mp rest
  obtain ⟨run, done⟩ := Option.filter_eq_some_iff.mp rest
  obtain ⟨middle, begun, second⟩ := Option.bind_eq_some_iff.mp first
  obtain ⟨read, readStep, same⟩ := Option.bind_eq_some_iff.mp second
  cases same
  exact ⟨pass, now, later, middle, reading, rfl, sameKind, whole, begun, readStep, meets,
    run, List.isEmpty_iff.mp done⟩

theorem pass_opened {middle reading : State} {pass : Pass} {now : Instant} (idle : state.tasks = [])
    (begun : step state (.passBegin pass now) = some middle)
    (read : step middle (.passRead state.nextTask batchSize) = some reading) :
    reading.tables = markOrphanedRevoking pass.kind now state.tables ∧
      reading.tasks = numberFrom (state.nextTask + 1)
        ((candidates reading.tables pass batchSize).map fun row =>
          .queued (rowCheck reading.tables state.nextTask pass.locked row)) := by
  obtain ⟨planned, success, ended⟩ := step_cases begun
  simp only [plan, passBegin] at success
  split at success <;> cases success
  rcases ended with committed | aborted
  · have tasks : middle.tasks = [(state.nextTask, .passReading pass)] := by
      rw [committed.tasks, idle]
      rfl
    have found : middle.task state.nextTask = some (.passReading pass) := by
      simp [State.task, lookup, tasks]
    have planned : plan middle (.passRead state.nextTask batchSize) = some
        ⟨middle.tables, some state.nextTask, none,
          (candidates middle.tables pass batchSize).map fun row =>
            .queued (rowCheck middle.tables state.nextTask pass.locked row)⟩ := by
      simp only [plan, passRead, found]
    have second := step_committed planned middle.database.consistent read
    have tables : reading.tables = middle.tables := second.tables
    refine ⟨tables.trans committed.tables, ?_⟩
    rw [second.tasks, tasks, committed.nextTask, tables]
    simp [replaceTask]
  · -- The marking was rolled back, and with it the pass.
    have lost : middle.task state.nextTask = none := by
      simp [State.task, lookup, aborted.tasks, idle, replaceTask]
    simp [step, plan, passRead, lost] at read

theorem queued_checked {events : List Event} {final : State} (numbered : state.Numbered)
    (ordered : state.Ordered)
    (meets : RunMeets step (worksThrough · ·) events state)
    (run : runEvents step events state = some final) (done : final.tasks = []) {id : TaskId}
    {check : RowCheck} (member : (id, .queued check) ∈ state.tasks) :
    check.snapshot.id ∈ checkedRows events state := by
  induction events generalizing state with
  | nil =>
    cases run
    rw [done] at member
    cases member
  | cons event rest ih =>
    obtain ⟨next, taken, run⟩ := Option.bind_eq_some_iff.mp run
    have found := task_of_mem state ordered member
    obtain ⟨works, meets⟩ := meets
    simp only [checkedRows, taken, Option.map_some, Option.getD_some]
    by_cases own : event.task = some id
    · -- Its own next step is its start: every other finds another kind of task.
      cases event with
      | rowStart task =>
        cases own
        simp [checkedBy, found]
      | crash task =>
        cases own
        simp [worksThrough, found, reconciling] at works
      | answer task received =>
        cases own
        simp [step, plan, answer, found, Task.resume] at taken
      | recover task now =>
        cases own
        simp [step, plan, recover, found] at taken
      | repairBegin task now =>
        cases own
        simp [step, plan, repairBegin, found] at taken
      | repairFinalize task =>
        cases own
        simp [step, plan, repairFinalize, found] at taken
      | _ => cases works
    · apply mem_append_right
      exact ih (step_numbered state taken numbered)
        (step_ordered state taken numbered ordered) (meets next taken) run
        (step_others state next event taken _ member own)

end

/-! ## One batch holds them all -/

/-- No row is left `requested`: a connect writes it `applying`. -/
def Unrequested (tables : Tables) : Prop :=
  ∀ row ∈ tables.rows, row.state ≠ .requested

structure Steady (state : State) : Prop where
  unrequested : Unrequested state.tables
  agreement : Agreement state

theorem rowChange_unrequested {state : State} {event : Event} {old new : Row}
    (change : RowChange state event old new) (kept : old.state ≠ .requested) :
    new.state ≠ .requested := by
  cases change with
  | kept => exact kept
  | reconnected =>
    unfold reconnectedRow
    split <;> exact fun same => by cases same
  | marked => exact fun same => by cases same
  | recovered =>
    unfold recoveredRow
    split <;> exact fun same => by cases same
  | finalized _ _ written =>
    intro same
    rw [same] at written
    rcases finalizes_cases written with
      ⟨_, _, call, applied, _, _, _, final⟩ | ⟨_, check, _, succeeded, _, _, _, _, final⟩
    · unfold finalState at final
      split at final <;> cases final
    · unfold repairState at final
      split at final <;> cases final

theorem step_steady {state : State} {next : State} {event : Event} (steady : Steady state)
    (taken : step state event = some next) : Steady next where
  unrequested := by
    intro row member
    obtain ⟨change, added, rows, changes, new, _⟩ := step_rows taken
    rw [rows] at member
    rcases mem_append.mp member with changed | fresh
    · obtain ⟨old, oldMember, same⟩ := mem_map.mp changed
      subst same
      exact rowChange_unrequested (changes old oldMember) (steady.unrequested old oldMember)
    · obtain ⟨_, connect, _, runtime, _, _, _, same⟩ := new row fresh
      subst same
      exact fun same => by cases same
  agreement := step_agreement steady.agreement taken

section

variable (tables : Tables) (kind : TargetKind) (now : Instant) (pass : Pass)

def markedRow (row : Row) : Row :=
  if row.kind == kind && orphaned tables row && row.state.revocable then revokingRow now row
  else row

theorem markedRow_id (row : Row) : (markedRow tables kind now row).id = row.id := by
  unfold markedRow
  split <;> rfl

theorem isCandidate_marked (unrequested : Unrequested tables) {row : Row}
    (member : row ∈ tables.rows) :
    isCandidate (markOrphanedRevoking kind now tables) pass (markedRow tables kind now row) =
      isCandidate tables pass row := by
  unfold markedRow
  split
  swap
  · rfl
  have candidate : row.state.candidate = true := by
    have fresh := unrequested row member
    cases state : row.state <;>
      simp_all [ProvisioningState.revocable, ProvisioningState.candidate]
  unfold isCandidate
  rw [candidate]
  rfl

theorem isCandidate_untargeted (whole : pass.target = none) (same : pass.kind = kind) :
    tables.rows.filter (isCandidate tables pass) = candidateRows tables kind := by
  apply filter_congr
  intro row _
  simp [isCandidate, whole, same]

end

section

variable {state : State} (kind : TargetKind) {batchSize : Nat}

theorem pass_checks (steady : Steady state) {events : List Event} {final : State}
    (ran : runPass kind batchSize state events = some final)
    (fits : (candidateRows state.tables kind).length ≤ batchSize) {row : Row}
    (candidate : row ∈ candidateRows state.tables kind) : row.id ∈ checkedRows events state := by
  obtain ⟨idle, pass, now, later, middle, reading, rfl, same, whole, begun, read, meets, run,
    done⟩ := runPass_spec kind ran
  obtain ⟨tables, tasks⟩ := pass_opened idle begun read
  have selected : reading.tables.rows.filter (isCandidate reading.tables pass) =
      (candidateRows state.tables kind).map (markedRow state.tables kind now) := by
    rw [← isCandidate_untargeted state.tables kind pass whole same, tables, same]
    change (state.tables.rows.map (markedRow state.tables kind now)).filter _ = _
    rw [filter_map]
    congr 1
    apply filter_congr
    intro row member
    exact isCandidate_marked state.tables kind now pass steady.unrequested member
  have taken : markedRow state.tables kind now row ∈
      candidates reading.tables pass batchSize := by
    unfold candidates
    rw [selected, take_of_length_le (by simpa using fits), mem_insertionSort]
    exact mem_map_of_mem candidate
  obtain ⟨id, queued⟩ := exists_numbered (state.nextTask + 1) (mem_map_of_mem taken)
  rw [← tasks] at queued
  have numbered : state.Numbered := by simp [State.Numbered, idle]
  have ordered : state.Ordered := by simp [State.Ordered, idle]
  have middleNumbered := step_numbered state begun numbered
  have checked := queued_checked
    (step_numbered middle read middleNumbered)
    (step_ordered middle read middleNumbered (step_ordered state begun numbered ordered))
    meets run done queued
  have named := markedRow_id state.tables kind now row
  simp only [rowCheck, named] at checked
  simpa [checkedRows, checkedBy, begun, read] using checked

theorem passesNeeded_one {count : Nat} (some : 1 ≤ count) (fits : count ≤ batchSize) :
    passesNeeded count batchSize = 1 := by
  apply Nat.div_eq_of_lt_le <;> omega

theorem everyCandidateChecked_of_fits (steady : Steady state)
    (fits : (candidateRows state.tables kind).length ≤ batchSize) :
    EveryCandidateChecked state kind batchSize := by
  intro passes final count run row candidate
  rw [passesNeeded_one (length_pos_of_mem candidate) fits] at count
  obtain ⟨events, rfl⟩ := length_eq_one_iff.mp count
  obtain ⟨next, ran, _⟩ := Option.bind_eq_some_iff.mp run
  simpa using pass_checks kind steady ran fits candidate

end

section

variable (kind : TargetKind) (batchSize : Nat)

theorem replaceTask_head (id : TaskId) (task : Task) (rest : List Task) (following : Option Task) :
    replaceTask ((id, task) :: numberFrom (id + 1) rest) (some id) following =
      (following.map fun next => (id, next)).toList ++ numberFrom (id + 1) rest := by
  have others : ∀ entry ∈ numberFrom (id + 1) rest, entry.1 ≠ id := by
    intro entry member
    exact Nat.ne_of_gt (mem_numberFrom (id + 1) member).2.1
  cases following with
  | none =>
    simp only [replaceTask, filter_cons, bne_self_eq_false, Option.map_none]
    exact filter_eq_self.mpr fun entry member => by simpa using others entry member
  | some next =>
    simp only [replaceTask, map_cons, if_true, Option.map_some, Option.toList_some]
    congr 1
    refine (map_congr_left ?_).trans (map_id _)
    intro entry member
    exact if_neg (others entry member)

variable {state : State}

theorem quiet_rows {checks : List RowCheck} (id : TaskId)
    (tasks : state.tasks = numberFrom id (checks.map .queued)) :
    ∃ events final, runEvents step events state = some final ∧
      RunMeets step (worksThrough · ·) events state ∧
      final.tables = state.tables ∧ final.tasks = [] ∧
      checkedRows events state = checks.map fun check => check.snapshot.id := by
  induction checks generalizing state id with
  | nil => exact ⟨[], state, rfl, trivial, rfl, tasks, rfl⟩
  | cons check rest ih =>
    have head : state.tasks = (id, .queued check) :: numberFrom (id + 1) (rest.map .queued) := tasks
    have found : state.task id = some (.queued check) := by
      simp [State.task, lookup, head]
    have first : state.firstOfPass id check.pass = true := by
      simp [State.firstOfPass, head, Task.rowCheck]
    by_cases readable : credentialReadable state.tables check.snapshot = true
    · obtain ⟨probing, started, begun⟩ := step_commits state (.rowStart id)
        ⟨state.tables, some id, some (.probing check), []⟩
        (by simp only [plan, rowStart, found, first, readable, if_true])
        state.database.consistent
      have probes : probing.tasks = (id, .probing check) :: numberFrom (id + 1)
          (rest.map .queued) := by
        rw [begun.tasks, head, replaceTask_head]
        simp [numberFrom]
      have waiting : probing.task id = some (.probing check) := by
        simp [State.task, lookup, probes]
      obtain ⟨next, answered, ended⟩ := step_commits probing (.answer id .unreachable)
        ⟨probing.tables, some id, none, []⟩
        (by simp [plan, answer, waiting, Task.resume, resumeProbe])
        probing.database.consistent
      obtain ⟨events, final, run, meets, tables, done, checked⟩ := ih (id + 1)
        (by rw [ended.tasks, probes, replaceTask_head]; simp [numberFrom])
      refine ⟨.rowStart id :: .answer id .unreachable :: events, final, ?_, ?_, ?_, done, ?_⟩
      · simpa [started, answered] using run
      · simpa [RunMeets, started, answered, worksThrough] using meets
      · exact tables.trans (ended.tables.trans begun.tables)
      · simpa [checkedRows, started, answered, checkedBy, found] using checked
    · obtain ⟨next, started, ended⟩ := step_commits state (.rowStart id)
        (endTask state.tables id)
        (by simp only [plan, rowStart, found, first, readable, if_true]; rfl)
        state.database.consistent
      obtain ⟨events, final, run, meets, tables, done, checked⟩ := ih (id + 1)
        (by rw [ended.tasks, head]; simp [endTask, replaceTask_head, numberFrom])
      refine ⟨.rowStart id :: events, final, ?_, ?_, ?_, done, ?_⟩
      · simpa [started] using run
      · simpa [RunMeets, started, worksThrough] using meets
      · exact tables.trans ended.tables
      · simpa [checkedRows, started, checkedBy, found] using checked

def quietPass : Pass :=
  ⟨kind, false, none⟩

theorem quiet_pass (steady : Steady state) (idle : state.tasks = []) (now : Instant) :
    ∃ events final, runPass kind batchSize state events = some final ∧
      runEvents step events state = some final ∧
      final.tables = markOrphanedRevoking kind now state.tables ∧ final.tasks = [] ∧
      checkedRows events state =
        (candidates final.tables (quietPass kind) batchSize).map Row.id := by
  obtain ⟨middle, begun, first⟩ := step_commits state (.passBegin (quietPass kind) now)
    ⟨markOrphanedRevoking kind now state.tables, none, none, [.passReading (quietPass kind)]⟩
    (by simp [plan, passBegin, quietPass])
    (markRevoking_consistent state.tables _ now state.database.consistent steady.agreement.paired)
  have waiting : middle.task state.nextTask = some (.passReading (quietPass kind)) := by
    simp [State.task, lookup, first.tasks, idle, replaceTask, numberFrom]
  obtain ⟨reading, read, _⟩ := step_commits middle (.passRead state.nextTask batchSize)
    ⟨middle.tables, some state.nextTask, none,
      (candidates middle.tables (quietPass kind) batchSize).map fun row =>
        .queued (rowCheck middle.tables state.nextTask (quietPass kind).locked row)⟩
    (by simp only [plan, passRead, waiting]) middle.database.consistent
  obtain ⟨tables, tasks⟩ := pass_opened idle begun read
  obtain ⟨later, final, run, meets, same, done, checked⟩ := quiet_rows
    (state.nextTask + 1) (by rw [tasks, map_map]; rfl)
  refine ⟨.passBegin (quietPass kind) now :: .passRead state.nextTask batchSize :: later, final,
    ?_, ?_, same.trans tables, done, ?_⟩
  · have opens : opensPass kind batchSize state (.passBegin (quietPass kind) now ::
        .passRead state.nextTask batchSize :: later) = true := by
      simp [opensPass, quietPass]
    simp [runPass, opens, idle, begun, read, meets, run, done]
  · simpa [begun, read] using run
  · simp [checkedRows, checkedBy, begun, read, checked, same, rowCheck]

theorem markRevoking_settled {tables : Tables} {selected : Row → Bool} (now : Instant)
    (settled : ∀ row ∈ tables.rows, (selected row && row.state.revocable) = false) :
    markRevoking selected now tables = tables := by
  have credentials : ∀ credential ∈ tables.credentials,
      (tables.rows.any fun row =>
        selected row && row.state.revocable && row.credentialId == credential.id) = false := by
    intro credential _
    rw [any_eq_false]
    intro row member
    simp [settled row member]
  unfold markRevoking
  rw [updateWhere_none _ _ settled, updateWhere_none _ _ credentials]

theorem markOrphanedRevoking_twice (tables : Tables) (now : Instant) :
    markOrphanedRevoking kind now (markOrphanedRevoking kind now tables) =
      markOrphanedRevoking kind now tables := by
  have settled : ∀ row ∈ (markOrphanedRevoking kind now tables).rows,
      (row.kind == kind && orphaned tables row && row.state.revocable) = false := by
    intro row member
    obtain ⟨old, _, same⟩ := mem_map.mp member
    subst same
    split
    · simp [revokingRow, ProvisioningState.revocable]
    · rename_i left
      simpa using left
  exact markRevoking_settled now settled

theorem quiet_passes {now : Instant} {count : Nat} (state : State) (steady : Steady state)
    (idle : state.tasks = []) :
    ∃ passes final, passes.length = count ∧
      runEvents (runPass kind batchSize) passes state = some final ∧
      ∀ id ∈ checkedRows passes.flatten state,
        id ∈ (candidates (markOrphanedRevoking kind now state.tables) (quietPass kind)
          batchSize).map Row.id := by
  induction count generalizing state with
  | zero =>
    refine ⟨[], state, rfl, rfl, ?_⟩
    intro id checked
    cases checked
  | succ count ih =>
    obtain ⟨events, next, ran, run, tables, done, checked⟩ :=
      quiet_pass kind batchSize steady idle now
    have nextSteady : Steady next := runEvents_invariant Steady
      (fun state event next steady _ => step_steady steady) state
      steady (runMeets_of_forall step (fun _ _ => trivial) events state) run
    obtain ⟨passes, final, length, rest, later⟩ := ih next nextSteady done
    rw [tables, markOrphanedRevoking_twice] at later
    refine ⟨events :: passes, final, by rw [length_cons, length], ?_, ?_⟩
    · simpa [ran] using rest
    intro id member
    rw [flatten_cons, checkedRows_append _ run] at member
    rcases mem_append.mp member with now | after
    · rw [checked, tables] at now
      exact now
    · exact later id after

theorem fits_of_everyCandidateChecked (steady : Steady state)
    (idle : state.tasks = []) (every : EveryCandidateChecked state kind batchSize) :
    (candidateRows state.tables kind).length ≤ batchSize := by
  obtain ⟨passes, final, count, run, taken⟩ := quiet_passes kind batchSize state steady idle
  have distinct : ((candidateRows state.tables kind).map Row.id).Nodup :=
    state.database.consistent.rowIds.sublist (filter_sublist.map Row.id)
  have within : (candidateRows state.tables kind).map Row.id ⊆
      (candidates (markOrphanedRevoking kind 0 state.tables) (quietPass kind) batchSize).map
        Row.id := by
    intro id member
    obtain ⟨row, candidate, rfl⟩ := mem_map.mp member
    exact taken row.id (every passes final count run row candidate)
  calc (candidateRows state.tables kind).length
      = ((candidateRows state.tables kind).map Row.id).length := by rw [length_map]
    _ ≤ ((candidates (markOrphanedRevoking kind 0 state.tables) (quietPass kind)
          batchSize).map Row.id).length := (subperm_of_subset distinct within).length_le
    _ ≤ batchSize := by
      rw [length_map]
      exact length_take_le _ _

end

/-- The passes check every candidate exactly when one batch holds them all. -/
theorem every_candidate_checked_iff (start state : State) (events : List Event)
    (kind : TargetKind) (batchSize : Nat) (noRows : start.tables.rows = [])
    (noCredentials : start.tables.credentials = []) (idleStart : start.tasks = [])
    (run : runEvents step events start = some state) (idle : state.tasks = []) :
    EveryCandidateChecked state kind batchSize ↔
      (candidateRows state.tables kind).length ≤ batchSize := by
  have steady : Steady state := by
    refine runEvents_invariant Steady
      (fun state event next steady _ => step_steady steady) start
      ⟨?_, ?_, ?_⟩ (runMeets_of_forall step (fun _ _ => trivial) events start) run
    · simp [Unrequested, noRows]
    · simp [Paired, noCredentials]
    · simp [idleStart]
  exact ⟨fits_of_everyCandidateChecked kind batchSize steady idle,
    everyCandidateChecked_of_fits kind steady⟩

theorem every_candidate_checked_iff_connected :
    ∃ state, runEvents step peerConnected smallStart = some state ∧ state.tasks = [] ∧
      (candidateRows state.tables .wireguardPeer).length = 1 ∧
      EveryCandidateChecked state .wireguardPeer 1 := by
  obtain ⟨state, run, idle, count⟩ := runEvents_exists step peerConnected smallStart
    (fun state => state.tasks = [] ∧ (candidateRows state.tables .wireguardPeer).length = 1)
    (by decide +kernel)
  exact ⟨state, run, idle, count,
    (every_candidate_checked_iff smallStart state peerConnected .wireguardPeer 1 rfl rfl rfl run
      idle).mpr (Nat.le_of_eq count)⟩

def connectedTwice : List Event :=
  peerConnected ++
    [.admin (.registerDevice ⟨6, 1, .active⟩),
      .connectCheck ⟨1, 6, 30, 40, some 8⟩ true 12, .connectLookup 1, .connectCommit 1,
      .answer 1 (.applied 1), .finalize 1 13]

def unreachableTwice : List (List Event) :=
  [[.passBegin ⟨.wireguardPeer, true, none⟩ 20, .passRead 2 1, .rowStart 3,
      .answer 3 .unreachable],
    [.passBegin ⟨.wireguardPeer, true, none⟩ 30, .passRead 4 1, .rowStart 5,
      .answer 5 .unreachable]]

theorem candidate_missed_unreachableTwice :
    ∃ state, runEvents step connectedTwice smallStart = some state ∧ state.tasks = [] ∧
      (candidateRows state.tables .wireguardPeer).length = 2 ∧
      ¬ EveryCandidateChecked state .wireguardPeer 1 := by
  obtain ⟨state, run, idle, count, passed, row, candidate, missed⟩ := runEvents_exists step
    connectedTwice smallStart
    (fun state => state.tasks = [] ∧ (candidateRows state.tables .wireguardPeer).length = 2 ∧
      (runEvents (runPass .wireguardPeer 1) unreachableTwice state).isSome = true ∧
      ∃ row ∈ candidateRows state.tables .wireguardPeer,
        row.id ∉ checkedRows unreachableTwice.flatten state)
    (by decide +kernel)
  obtain ⟨final, passes⟩ := Option.isSome_iff_exists.mp passed
  refine ⟨state, run, idle, count, ?_⟩
  intro every
  exact missed (every unreachableTwice final (by rw [count]; rfl) passes row candidate)

end Nebula.Lifecycle
