import Nebula.ControlPlane.TaskSteps

/-!
# One pass at a time

`reconciliation_lock` is there so that no two passes work on the same row at once. The
timers and the administrator's run take it; the usage loop runs both passes without it.
Within a pass the rows follow one another, so the passes themselves have to.
-/

namespace Nebula.Lifecycle

open Schema Runs ControlPlane

/-- The check of a task inside `_reconcile_one` or `_reconcile_one_xray`. -/
def reconciling : Task → Option RowCheck
  | .queued _ => none
  | task => task.rowCheck

def rowInHand (task : Task) : Option (TargetKind × Uuid) :=
  (reconciling task).map fun check => (check.snapshot.kind, check.snapshot.id)

variable (state : State)

def RowsApart : Prop :=
  ∀ first ∈ state.tasks, ∀ second ∈ state.tasks,
    (rowInHand first.2).isSome = true ∧ rowInHand first.2 = rowInHand second.2 → first.1 = second.1
  deriving Decidable

def passOf (entry : TaskId × Task) : Option (TargetKind × TaskId) :=
  match entry.2 with
  | .passReading pass => some (pass.kind, entry.1)
  | task => task.rowCheck.map fun check => (check.snapshot.kind, check.pass)

def passUnderWay (kind : TargetKind) : Bool :=
  state.tasks.any fun entry => (passOf entry).any fun pass => pass.1 == kind

/-- A pass begins beside no other over its table, or asks for the lock while it is held and does not
begin. -/
def passesInTurn : Event → Bool
  | .passBegin pass _ =>
    !passUnderWay state pass.kind || (pass.locked && state.reconciliationLockHeld)
  | _ => true

structure OnePass : Prop where
  numbered : state.Numbered
  ordered : state.Ordered
  single : ∀ first ∈ state.tasks, ∀ second ∈ state.tasks, ∀ kind firstPass secondPass,
    passOf first = some (kind, firstPass) → passOf second = some (kind, secondPass) →
    firstPass = secondPass
  leads : ∀ first ∈ state.tasks, ∀ second ∈ state.tasks, ∀ check later,
    reconciling first.2 = some check → second.2.rowCheck = some later →
    later.pass = check.pass → first.1 ≤ second.1

section

variable {state next : State} {event : Event}

variable {check : RowCheck}

theorem rowCheck_of_reconciling {task : Task}
    (inHand : reconciling task = some check) : task.rowCheck = some check := by
  cases task with
  | queued check => cases inHand
  | _ => exact inHand

theorem reconciling_or_queued {task : Task}
    (checks : task.rowCheck = some check) :
    reconciling task = some check ∨ task = .queued check := by
  cases task with
  | queued queued =>
    cases checks
    exact Or.inr rfl
  | _ => exact Or.inl checks

theorem passOf_of_check (entry : TaskId × Task)
    (checks : entry.2.rowCheck = some check) :
    passOf entry = some (check.snapshot.kind, check.pass) := by
  obtain ⟨id, task⟩ := entry
  cases task with
  | passReading pass => cases checks
  | _ => simp_all [passOf]

theorem firstOfPass_least (ordered : state.Ordered) {id pass : TaskId}
    (first : state.firstOfPass id pass = true) (entry : TaskId × Task)
    (member : entry ∈ state.tasks) (checks : entry.2.rowCheck = some check)
    (own : check.pass = pass) : id ≤ entry.1 := by
  unfold State.firstOfPass at first
  cases found : state.tasks.find? fun entry =>
      entry.2.rowCheck.any fun check => check.pass == pass with
  | none => simp [found] at first
  | some head =>
    have named : head.1 = id := by simpa [found] using first
    obtain ⟨_, earlier, later, split, others⟩ := List.find?_eq_some_iff_append.mp found
    have sorted := ordered
    unfold State.Ordered at sorted
    rw [split] at sorted member
    obtain ⟨_, tailSorted, _⟩ := List.pairwise_append.mp sorted
    rcases List.mem_append.mp member with before | after
    · have other := others entry before
      simp [checks, own] at other
    rw [← named]
    rcases List.mem_cons.mp after with same | after
    · rw [same]
    · exact Nat.le_of_lt ((List.pairwise_cons.mp tailSorted).1 entry after)

variable {entry : TaskId × Task} {kind : TargetKind}

theorem passBegin_tasks {pass : Pass} {now : Instant}
    (taken : step state (.passBegin pass now) = some next) (member : entry ∈ next.tasks) :
    entry ∈ state.tasks ∨ entry = (state.nextTask, .passReading pass) := by
  obtain ⟨planned, success, ended⟩ := step_cases taken
  simp only [plan, passBegin] at success
  split at success <;> cases success
  rcases ended with committed | aborted
  · rw [committed.tasks] at member
    simpa [replaceTask, numberFrom] using member
  · rw [aborted.tasks] at member
    exact Or.inl member

theorem step_passOf (taken : step state event = some next) (member : entry ∈ next.tasks)
    {pass : TaskId} (works : passOf entry = some (kind, pass)) :
    (∃ old ∈ state.tasks, passOf old = some (kind, pass)) ∨
      ∃ begun now, event = .passBegin begun now ∧ begun.kind = kind ∧ pass = state.nextTask ∧
        ¬ (begun.locked = true ∧ state.reconciliationLockHeld = true) := by
  rcases step_tasks taken member with ⟨old, _⟩ | start
  · exact Or.inl ⟨entry, old, works⟩
  obtain ⟨id, task⟩ := entry
  cases checks : task.rowCheck with
  | none =>
    cases start with
    | passReading begun now happened free =>
      subst happened
      rcases passBegin_tasks taken member with old | new
      · exact Or.inl ⟨_, old, works⟩
      · cases new
        cases works
        exact Or.inr ⟨begun, now, rfl, rfl, rfl, free⟩
    | resumed received old _ _ _ resumes =>
      cases resumes with
      | finalizing call applied => simp [passOf, Task.rowCheck] at works
      | _ => cases checks
    | _ => first | cases checks; done | simp [passOf, Task.rowCheck] at works
  | some check =>
    have own := passOf_of_check (id, task) checks
    rw [works] at own
    cases own
    rcases start_check start checks with
      ⟨old, found, same, _⟩ | ⟨passId, _, begun, row, _, _, found, _, selected, same, _⟩
    · exact Or.inl ⟨_, task_mem found, passOf_of_check (id, old) same⟩
    refine Or.inl ⟨_, task_mem found, ?_⟩
    have kinds : row.kind = begun.kind := by
      simp only [isCandidate, Bool.and_eq_true, beq_iff_eq] at selected
      exact selected.1.1.1
    rw [same]
    simp [passOf, rowCheck, kinds]

theorem not_underWay (idle : passUnderWay state kind = false) (member : entry ∈ state.tasks)
    (pass : TaskId) : passOf entry ≠ some (kind, pass) := by
  intro works
  have busy : passUnderWay state kind = true :=
    List.any_eq_true.mpr ⟨entry, member, by simp [works]⟩
  rw [idle] at busy
  cases busy

section

variable (taken : step state event = some next)
include taken

variable {first second : TaskId × Task}

theorem step_single (onePass : OnePass state) (inTurn : passesInTurn state event = true)
    (firstMember : first ∈ next.tasks) (secondMember : second ∈ next.tasks) {firstPass : TaskId}
    {secondPass : TaskId} (firstWorks : passOf first = some (kind, firstPass))
    (secondWorks : passOf second = some (kind, secondPass)) : firstPass = secondPass := by
  -- A pass that begins finds no other over its table.
  have begins : ∀ begun now, event = .passBegin begun now → begun.kind = kind →
      ¬ (begun.locked = true ∧ state.reconciliationLockHeld = true) →
      passUnderWay state kind = false := by
    intro begun now happened same free
    subst happened
    subst same
    simp only [passesInTurn, Bool.or_eq_true, Bool.not_eq_true', Bool.and_eq_true] at inTurn
    exact inTurn.resolve_right free
  rcases step_passOf taken firstMember firstWorks with
    ⟨firstOld, firstThere, firstSame⟩ | ⟨begun, now, happened, same, firstNew, free⟩
  · rcases step_passOf taken secondMember secondWorks with
      ⟨secondOld, secondThere, secondSame⟩ | ⟨begun, now, happened, same, _, free⟩
    · exact onePass.single firstOld firstThere secondOld secondThere kind firstPass secondPass
        firstSame secondSame
    · exact absurd firstSame (not_underWay (begins begun now happened same free) firstThere _)
  · rcases step_passOf taken secondMember secondWorks with
      ⟨secondOld, secondThere, secondSame⟩ | ⟨_, _, _, _, secondNew, _⟩
    · exact absurd secondSame (not_underWay (begins begun now happened same free) secondThere _)
    · rw [firstNew, secondNew]

theorem step_check (member : entry ∈ next.tasks)
    (checks : entry.2.rowCheck = some check) :
    (∃ old, (entry.1, old) ∈ state.tasks ∧ old.rowCheck = some check ∧
        (reconciling entry.2 = some check →
          reconciling old = some check ∨ state.firstOfPass entry.1 check.pass = true)) ∨
      state.nextTask ≤ entry.1 ∧ entry.2 = .queued check := by
  rcases step_tasks taken member with ⟨old, _⟩ | start
  · exact Or.inl ⟨entry.2, old, checks, fun inHand => Or.inl inHand⟩
  rcases start_check start checks with
    ⟨old, found, same, first⟩ | ⟨_, _, _, _, fresh, _, _, _, _, _, queued⟩
  · refine Or.inl ⟨old, task_mem found, same, ?_⟩
    intro _
    rcases reconciling_or_queued same with inHand | queued
    · exact Or.inl inHand
    · exact Or.inr (first queued)
  · exact Or.inr ⟨fresh, queued⟩

theorem step_leads (onePass : OnePass state) (firstMember : first ∈ next.tasks)
    (secondMember : second ∈ next.tasks) {later : RowCheck}
    (inHand : reconciling first.2 = some check) (checks : second.2.rowCheck = some later)
    (same : later.pass = check.pass) : first.1 ≤ second.1 := by
  rcases step_check taken firstMember
      (rowCheck_of_reconciling inHand) with
    ⟨old, oldMember, oldCheck, wasInHand⟩ | ⟨_, queued⟩
  · rcases step_check taken secondMember checks with
      ⟨other, otherMember, otherCheck, _⟩ | ⟨fresh, _⟩
    · rcases wasInHand inHand with already | leads
      · exact onePass.leads (first.1, old) oldMember (second.1, other) otherMember check later
          already otherCheck same
      · exact firstOfPass_least onePass.ordered leads (second.1, other) otherMember otherCheck same
    · exact Nat.le_of_lt (Nat.lt_of_lt_of_le (onePass.numbered (first.1, old) oldMember) fresh)
  · rw [queued] at inHand
    cases inHand

theorem step_onePass (onePass : OnePass state)
    (inTurn : passesInTurn state event = true) : OnePass next where
  numbered := step_numbered state taken onePass.numbered
  ordered := step_ordered state taken onePass.numbered onePass.ordered
  single := by
    intro first firstMember second secondMember kind firstPass secondPass
    exact step_single taken onePass inTurn firstMember secondMember
  leads := by
    intro first firstMember second secondMember check later
    exact step_leads taken onePass firstMember secondMember

end

theorem rowsApart_of_onePass (state : State) (onePass : OnePass state) : RowsApart state := by
  intro first firstMember second secondMember holds
  obtain ⟨some, same⟩ := holds
  obtain ⟨row, firstRow⟩ := Option.isSome_iff_exists.mp some
  have secondRow : rowInHand second.2 = row := same ▸ firstRow
  obtain ⟨check, firstCheck, firstNamed⟩ := Option.map_eq_some_iff.mp firstRow
  obtain ⟨other, secondCheck, secondNamed⟩ := Option.map_eq_some_iff.mp secondRow
  have firstWorks := passOf_of_check first (rowCheck_of_reconciling firstCheck)
  have secondWorks := passOf_of_check second (rowCheck_of_reconciling secondCheck)
  have kinds : other.snapshot.kind = check.snapshot.kind :=
    congrArg Prod.fst (secondNamed.trans firstNamed.symm)
  rw [kinds] at secondWorks
  have pass := onePass.single first firstMember second secondMember _ _ _ firstWorks secondWorks
  apply Nat.le_antisymm
  · exact onePass.leads first firstMember second secondMember check other firstCheck
      (rowCheck_of_reconciling secondCheck) pass.symm
  · exact onePass.leads second secondMember first firstMember other check secondCheck
      (rowCheck_of_reconciling firstCheck) pass

end

/-- If no pass begins beside another over the same table, no two tasks work on the same row. -/
theorem rows_reconciled_apart (start : State) (events : List Event) (idle : start.tasks = [])
    (meets : RunMeets step (passesInTurn · ·) events start) :
    AlwaysAlong step RowsApart events start := by
  refine alwaysAlong_of_invariant OnePass RowsApart ?_ rowsApart_of_onePass ?_ meets
  · intro state event next onePass inTurn taken
    exact step_onePass taken onePass inTurn
  · constructor <;> simp [State.Numbered, State.Ordered, idle]

def passAfterPass : List Event :=
  peerConnected ++
    [.passBegin ⟨.wireguardPeer, true, none⟩ 20, .passRead 1 10, .rowStart 2,
      .answer 2 (.observed .inSync (some 1)),
      .passBegin ⟨.wireguardPeer, false, none⟩ 21, .passRead 3 10, .rowStart 4]

theorem rows_reconciled_apart_passAfterPass :
    RunMeets step (passesInTurn · ·) passAfterPass smallStart ∧
      AlwaysAlong step RowsApart passAfterPass smallStart :=
  ⟨by decide +kernel,
    rows_reconciled_apart smallStart passAfterPass rfl (by decide +kernel)⟩

/-- The timer's pass waits for the agent, lock in hand, while the usage loop runs its own. -/
def passBesidePass : List Event :=
  peerConnected ++
    [.passBegin ⟨.wireguardPeer, true, none⟩ 20, .passRead 1 10, .rowStart 2,
      .passBegin ⟨.wireguardPeer, false, none⟩ 21, .passRead 3 10, .rowStart 4]

theorem row_shared_passBesidePass : ¬ AlwaysAlong step RowsApart passBesidePass smallStart :=
  not_alwaysAlong RowsApart passBesidePass smallStart (by decide +kernel)

end Nebula.Lifecycle
