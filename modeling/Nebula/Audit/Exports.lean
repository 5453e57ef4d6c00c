import Nebula.Audit.Integrity
import Nebula.Work

/-!
# Exports of a log that is written to and pruned

Audit rows bear the time their transaction began. `export_audit_log` fixes its `until` five minutes
back and reads every visible row recorded before it, oldest first; `prune_history` fixes a cutoff
and deletes rows recorded before it, batch by batch. All run side by side, on one clock.
-/

namespace Nebula.Audit

open Schema Store Runs Work List

def exportSettle : Nat := 5 * 60

def day : Nat := 24 * 60 * 60

def pruneBatchSize : Nat := 2000

structure Export where
  moment : Instant
  entries : List AuditLogEntry
  countable : entries.length < 10 ^ Json.maxDigits
  deriving DecidableEq

def Export.text (library : Library) (taken : Export) : Json.Text :=
  exportText library taken.entries taken.moment

inductive Job where
  | insertion (startedAt : Instant) (entries : List AuditLogEntry)
  | exporting (moment : Instant)
  | pruning (cutoff : Instant)

structure State where
  now : Instant
  rows : List AuditLogEntry
  jobs : Pool Job
  exports : List Export

def State.initial (now : Instant) : State :=
  { now := now, rows := [], jobs := .empty, exports := [] }

def Earlier (first second : AuditLogEntry) : Prop :=
  first.recordedAt < second.recordedAt ∨
    first.recordedAt = second.recordedAt ∧ first.id ≤ second.id
  deriving Decidable

variable (rows : List AuditLogEntry)

def exportEvents (moment : Instant) : List AuditLogEntry :=
  (rows.filter fun row => decide (row.recordedAt < moment)).insertionSort Earlier

variable (state : State) (library : Library)

def State.pendingEntries : List AuditLogEntry :=
  state.jobs.jobs.flatMap fun job =>
    match job.2 with
    | .insertion _ entries => entries
    | .exporting _ => []
    | .pruning _ => []

inductive Event where
  | tick (later : Instant)
  | begin
  | insert (number : Nat) (entry : AuditLogEntry)
  | commit (number : Nat)
  | rollback (number : Nat)
  | requestExport
  | readExport (number : Nat)
  | beginPrune (auditDays : Nat)
  | pruneBatch (number : Nat) (identifiers : List Uuid)
  | endPrune (number : Nat)

def step : Event → Option State
  | .tick later => if state.now ≤ later then some { state with now := later } else none
  | .begin => some { state with jobs := state.jobs.begin (.insertion state.now []) }
  | .insert number entry =>
    match state.jobs.find number with
    | some (.insertion startedAt entries) =>
      -- `recorded_at` is `now()` of the transaction; an id is new, or the key refuses it.
      if entry.id ∈ (state.rows ++ state.pendingEntries).map AuditLogEntry.id then none
      else
        some { state with
          jobs := state.jobs.goOn number
            (.insertion startedAt (entries ++ [{ entry with recordedAt := startedAt }])) }
    | _ => none
  | .commit number =>
    match state.jobs.find number with
    | some (.insertion _ entries) =>
      some { state with rows := state.rows ++ entries, jobs := state.jobs.finish number }
    | _ => none
  | .rollback number =>
    match state.jobs.find number with
    | some (.insertion _ _) => some { state with jobs := state.jobs.finish number }
    | _ => none
  | .requestExport =>
    some { state with jobs := state.jobs.begin (.exporting (state.now - exportSettle)) }
  | .readExport number =>
    match state.jobs.find number with
    | some (.exporting moment) =>
      let entries := exportEvents state.rows moment
      some { state with
        jobs := state.jobs.finish number
        -- `json.dumps` raises for a count of too many digits.
        exports := state.exports ++
          if countable : entries.length < 10 ^ Json.maxDigits then [⟨moment, entries, countable⟩]
          else [] }
    | _ => none
  | .beginPrune auditDays =>
    if 1 ≤ auditDays then
      some { state with jobs := state.jobs.begin (.pruning (state.now - auditDays * day)) }
    else none
  | .pruneBatch number identifiers =>
    match state.jobs.find number with
    | some (.pruning cutoff) =>
      if identifiers.length ≤ pruneBatchSize ∧
          ∀ row ∈ state.rows, row.id ∈ identifiers → row.recordedAt < cutoff then
        some { state with
          rows := state.rows.filter fun row => decide (row.id ∉ identifiers) }
      else none
    | _ => none
  | .endPrune number =>
    match state.jobs.find number with
    | some (.pruning _) => some { state with jobs := state.jobs.finish number }
    | _ => none

def Settles : Event → Prop
  | .commit number =>
    match state.jobs.find number with
    | some (.insertion startedAt _) => state.now ≤ startedAt + exportSettle
    | _ => True
  | _ => True

/-- A prune takes no row recorded before an export's `until`. -/
def KeepsExported : Event → Prop
  | .pruneBatch _ identifiers =>
    ∀ taken ∈ state.exports, ∀ row ∈ state.rows, row.id ∈ identifiers →
      taken.moment ≤ row.recordedAt
  | _ => True

variable (state : State)

instance (event : Event) : Decidable (Settles state event) := by
  unfold Settles
  split
  · split <;> infer_instance
  · infer_instance

instance (event : Event) : Decidable (KeepsExported state event) := by
  unfold KeepsExported
  split <;> infer_instance

/-- Of two exports, the one with the later `until` extends the other. -/
def ExtendsOlder : Prop :=
  ∀ older ∈ state.exports, ∀ newer ∈ state.exports, older.moment ≤ newer.moment →
    ∃ summary, verifyExtends library (splitLines (older.text library))
      (splitLines (newer.text library)) = .ok summary

theorem earlier_total (first second : AuditLogEntry) :
    Earlier first second ∨ Earlier second first := by
  rcases Nat.lt_trichotomy first.recordedAt second.recordedAt with before | same | after
  · exact Or.inl (Or.inl before)
  · rcases Nat.le_total first.id second.id with lower | upper
    · exact Or.inl (Or.inr ⟨same, lower⟩)
    · exact Or.inr (Or.inr ⟨same.symm, upper⟩)
  · exact Or.inr (Or.inl after)

theorem earlier_trans (first second third : AuditLogEntry) (lower : Earlier first second)
    (upper : Earlier second third) : Earlier first third := by
  rcases lower with before | ⟨same, lowerId⟩ <;> rcases upper with after | ⟨equal, upperId⟩
  · exact Or.inl (Nat.lt_trans before after)
  · exact Or.inl (equal ▸ before)
  · exact Or.inl (same ▸ after)
  · exact Or.inr ⟨same.trans equal, Nat.le_trans lowerId upperId⟩

instance : Std.Total Earlier := ⟨earlier_total⟩

instance : IsTrans AuditLogEntry Earlier := ⟨earlier_trans⟩

theorem filter_orderedInsert {test : AuditLogEntry → Bool} {entry : AuditLogEntry}
    {entries : List AuditLogEntry} (sorted : entries.Pairwise Earlier) :
    (entries.orderedInsert Earlier entry).filter test =
      if test entry then (entries.filter test).orderedInsert Earlier entry
      else entries.filter test := by
  have leads : ∀ later : List AuditLogEntry, (∀ other ∈ later, Earlier entry other) →
      later.orderedInsert Earlier entry = entry :: later := by
    intro later all
    cases later with
    | nil => rfl
    | cons other rest =>
      exact orderedInsert_cons_of_le Earlier rest (all other mem_cons_self)
  induction entries with
  | nil => by_cases passes : test entry = true <;> simp [passes]
  | cons other rest ih =>
    obtain ⟨ahead, later⟩ := pairwise_cons.mp sorted
    by_cases before : Earlier entry other
    · have all : ∀ row ∈ other :: rest, Earlier entry row :=
        forall_mem_cons.mpr
          ⟨before, fun row member => earlier_trans _ _ _ before (ahead row member)⟩
      rw [leads _ all, leads _ fun row member => all row (mem_of_mem_filter member), filter_cons]
    · rw [orderedInsert_cons, if_neg before, filter_cons, filter_cons, ih later]
      by_cases passes : test entry = true
      · by_cases kept : test other = true
        · simp [passes, kept, before]
        · simp [passes, kept]
      · simp [passes]

theorem filter_insertionSort (test : AuditLogEntry → Bool) (entries : List AuditLogEntry) :
    (entries.insertionSort Earlier).filter test = (entries.filter test).insertionSort Earlier := by
  induction entries with
  | nil => rfl
  | cons entry rest ih =>
    rw [insertionSort_cons, filter_orderedInsert (pairwise_insertionSort Earlier rest), ih]
    by_cases passes : test entry = true
    · rw [if_pos passes, filter_cons_of_pos passes, insertionSort_cons]
    · rw [if_neg passes, filter_cons_of_neg passes]

theorem filter_before_begins (moment : Instant) {entries : List AuditLogEntry}
    (sorted : entries.Pairwise Earlier) :
    (entries.filter fun row => decide (row.recordedAt < moment)) <+: entries := by
  induction entries with
  | nil => exact prefix_rfl
  | cons entry rest ih =>
    obtain ⟨first, later⟩ := pairwise_cons.mp sorted
    by_cases before : entry.recordedAt < moment
    · rw [filter_cons_of_pos (by simpa using before)]
      exact (prefix_cons_inj entry).mpr (ih later)
    have none : (entry :: rest).filter (fun row => decide (row.recordedAt < moment)) = [] := by
      rw [filter_eq_nil_iff]
      intro row member
      rcases mem_cons.mp member with rfl | among
      · simpa using before
      · rcases first row among with after | ⟨same, _⟩
        · simpa using Nat.le_trans (Nat.le_of_not_lt before) (Nat.le_of_lt after)
        · simpa using same ▸ Nat.le_of_not_lt before
    rw [none]
    exact nil_prefix

theorem exportEvents_begins {older newer : Instant}
    (order : older ≤ newer) : exportEvents rows older <+: exportEvents rows newer := by
  have narrowed : rows.filter (fun row => decide (row.recordedAt < older)) =
      (rows.filter fun row => decide (row.recordedAt < newer)).filter
        fun row => decide (row.recordedAt < older) := by
    rw [filter_filter]
    apply filter_congr
    intro row _
    rw [← Bool.decide_and]
    apply decide_eq_decide.mpr
    constructor
    · exact fun before => ⟨before, Nat.lt_of_lt_of_le before order⟩
    · exact fun both => both.1
  rw [exportEvents, narrowed, ← filter_insertionSort]
  exact filter_before_begins older (pairwise_insertionSort Earlier _)

theorem exportEvents_append (rows added : List AuditLogEntry) (moment : Instant)
    (later : ∀ row ∈ added, moment ≤ row.recordedAt) :
    exportEvents (rows ++ added) moment = exportEvents rows moment := by
  have none : added.filter (fun row => decide (row.recordedAt < moment)) = [] := by
    rw [filter_eq_nil_iff]
    intro row member
    simpa using later row member
  rw [exportEvents, filter_append, none, append_nil, exportEvents]

theorem exportEvents_filter (kept : AuditLogEntry → Bool)
    (moment : Instant) (early : ∀ row ∈ rows, row.recordedAt < moment → kept row = true) :
    exportEvents (rows.filter kept) moment = exportEvents rows moment := by
  have same : (rows.filter kept).filter (fun row => decide (row.recordedAt < moment)) =
      rows.filter fun row => decide (row.recordedAt < moment) := by
    rw [filter_filter]
    apply filter_congr
    intro row member
    by_cases before : row.recordedAt < moment
    · simp [before, early row member before]
    · simp [before]
  rw [exportEvents, same, exportEvents]

/-! ## What the log keeps -/

def Job.Fits (now : Instant) : Job → Prop
  | .insertion startedAt entries => ∀ entry ∈ entries, entry.recordedAt = startedAt
  | .exporting moment => moment ≤ now - exportSettle
  | .pruning _ => True

structure Kept : Prop where
  jobs : ∀ job ∈ state.jobs.jobs, job.2.Fits state.now
  settled : ∀ taken ∈ state.exports, taken.moment ≤ state.now - exportSettle
  whole : ∀ taken ∈ state.exports, taken.entries = exportEvents state.rows taken.moment

theorem Job.Fits.later (job : Job) (now later : Instant) (order : now ≤ later)
    (fits : job.Fits now) : job.Fits later := by
  cases job with
  | insertion startedAt entries => exact fits
  | exporting moment => exact Nat.le_trans fits (Nat.sub_le_sub_right order exportSettle)
  | pruning cutoff => trivial

theorem step_kept (state next : State) (event : Event) (kept : Kept state)
    (meets : Settles state event ∧ KeepsExported state event)
    (taken : step state event = some next) : Kept next := by
  obtain ⟨jobs, settled, whole⟩ := kept
  cases event with
  | tick later =>
    obtain ⟨order, taken⟩ := Option.ite_none_right_eq_some.mp taken
    cases taken
    refine ⟨fun job member => (jobs job member).later _ _ _ order, ?_, whole⟩
    exact fun one member =>
      Nat.le_trans (settled one member) (Nat.sub_le_sub_right order exportSettle)
  | begin =>
    cases taken
    exact ⟨Pool.forall_begin jobs (forall_mem_nil _), settled, whole⟩
  | insert number entry =>
    simp only [step] at taken
    split at taken
    · rename_i startedAt entries found
      split at taken
      · cases taken
      cases taken
      have own : ∀ entry ∈ entries, entry.recordedAt = startedAt :=
        jobs _ (state.jobs.find_mem number _ found)
      exact ⟨Pool.forall_goOn jobs (forall_mem_added own rfl), settled, whole⟩
    · cases taken
  | commit number =>
    simp only [step] at taken
    split at taken
    swap
    · cases taken
    rename_i startedAt entries found
    cases taken
    have own : ∀ entry ∈ entries, entry.recordedAt = startedAt :=
      jobs _ (state.jobs.find_mem number _ found)
    have within : state.now ≤ startedAt + exportSettle := by
      simpa [Settles, found] using meets.1
    refine ⟨Pool.forall_finish jobs, settled, ?_⟩
    intro one member
    -- A row that becomes visible now is not older than any `until` so far.
    rw [exportEvents_append, whole one member]
    intro row among
    rw [own row among]
    exact Nat.le_trans (settled one member) (Nat.sub_le_iff_le_add.mpr within)
  | rollback | endPrune =>
    simp only [step] at taken
    split at taken
    · cases taken
      exact ⟨Pool.forall_finish jobs, settled, whole⟩
    · cases taken
  | requestExport =>
    cases taken
    exact ⟨Pool.forall_begin jobs (Nat.le_refl _), settled, whole⟩
  | readExport number =>
    simp only [step] at taken
    split at taken
    · rename_i moment found
      cases taken
      have asked : moment ≤ state.now - exportSettle := jobs _ (state.jobs.find_mem number _ found)
      refine ⟨Pool.forall_finish jobs, ?_, ?_⟩ <;> split
      · exact forall_mem_added settled asked
      · rwa [append_nil]
      · exact forall_mem_added whole rfl
      · rwa [append_nil]
    · cases taken
  | beginPrune auditDays =>
    obtain ⟨_, taken⟩ := Option.ite_none_right_eq_some.mp taken
    cases taken
    exact ⟨Pool.forall_begin jobs trivial, settled, whole⟩
  | pruneBatch number identifiers =>
    simp only [step] at taken
    split at taken
    swap
    · cases taken
    split at taken
    swap
    · cases taken
    cases taken
    refine ⟨jobs, settled, ?_⟩
    intro one member
    rw [exportEvents_filter, whole one member]
    intro row among before
    rw [decide_eq_true_eq]
    intro deleted
    exact absurd before (Nat.not_lt.mpr (meets.2 one member row among deleted))

theorem extendsOlder_of_kept (kept : Kept state) :
    ExtendsOlder library state := by
  intro older olderTaken newer newerTaken order
  have began := exportEvents_begins state.rows order
  rw [← kept.whole older olderTaken, ← kept.whole newer newerTaken] at began
  obtain ⟨olderIntact, olderEvents⟩ := exportText_intact library older.moment older.countable
  obtain ⟨newerIntact, newerEvents⟩ := exportText_intact library newer.moment newer.countable
  refine verifyExtends_of_begins olderIntact newerIntact ?_
  rw [Export.text, olderEvents, Export.text, newerEvents]
  exact began.map (canonical library)

/-- A kept export is contained in every later one, while no prune takes a row it has. -/
theorem exports_extend_unless_pruned (library : Library) (now : Instant) (events : List Event)
    (meets : RunMeets step (fun state event => Settles state event ∧ KeepsExported state event)
      events (.initial now)) :
    AlwaysAlong step (ExtendsOlder library) events (.initial now) :=
  alwaysAlong_of_invariant Kept (ExtendsOlder library)
    (fun state event next kept meets taken => step_kept state next event kept meets taken)
    (extendsOlder_of_kept library)
    ⟨forall_mem_nil _, forall_mem_nil _, forall_mem_nil _⟩ meets

def keptRun : List Event :=
  [.begin, .insert 0 (sampleEntry 1), .commit 0, .tick (3 * day), .begin,
    .insert 1 (sampleEntry 2), .commit 1, .beginPrune 1, .pruneBatch 2 [1], .endPrune 2,
    .tick (4 * day), .requestExport, .readExport 3, .begin, .insert 4 (sampleEntry 3), .commit 4,
    .tick (5 * day), .requestExport, .readExport 5]

theorem exports_extend_keptRun :
    AlwaysAlong step (ExtendsOlder sampleLibrary) keptRun (.initial 0) ∧
      ((runEvents step keptRun (.initial 0)).map fun final =>
        final.exports.map fun taken => taken.entries.length) = some [1, 2] :=
  ⟨exports_extend_unless_pruned sampleLibrary 0 keptRun (by decide +kernel), by decide +kernel⟩

/-- An event is exported, pruned after one day, and the log exported again. -/
def prunedRun : List Event :=
  [.begin, .insert 0 (sampleEntry 1), .commit 0, .tick day, .requestExport, .readExport 1,
    .tick (2 * day), .beginPrune 1, .pruneBatch 2 [1], .endPrune 2, .requestExport, .readExport 3]

def beforePrune : Export :=
  ⟨day - exportSettle, [{ sampleEntry 1 with recordedAt := 0 }], by decide +kernel⟩

def afterPrune : Export :=
  ⟨2 * day - exportSettle, [], by decide +kernel⟩

theorem pruned_export_not_extended :
    RunMeets step Settles prunedRun (.initial 0) ∧
      ¬ AlwaysAlong step (ExtendsOlder sampleLibrary) prunedRun (.initial 0) := by
  refine ⟨by decide +kernel, ?_⟩
  intro always
  obtain ⟨olderIntact, olderEvents⟩ := exportText_intact sampleLibrary beforePrune.moment
    beforePrune.countable
  obtain ⟨newerIntact, newerEvents⟩ := exportText_intact sampleLibrary afterPrune.moment
    afterPrune.countable
  obtain ⟨final, run, exports⟩ := runEvents_exists step prunedRun (.initial 0)
    (fun final => final.exports = [beforePrune, afterPrune]) (by decide +kernel)
  have extended := always prunedRun [] final (append_nil prunedRun).symm run
    beforePrune (by rw [exports]; exact mem_cons_self) afterPrune
    (by rw [exports]; exact mem_cons_of_mem _ mem_cons_self) (by decide)
  have begins := (verifyExtends_iff_begins sampleLibrary _ _ olderIntact newerIntact (by
    rw [newerEvents]
    exact fun _ _ _ none => absurd none not_mem_nil)).mp extended
  rw [olderEvents, newerEvents] at begins
  simp [beforePrune, afterPrune] at begins

end Nebula.Audit
