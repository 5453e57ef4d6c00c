import Nebula.Usage.Readings

/-!
# Reads one after the other

The history of one credential on one server, as the control plane reads it: its counter
lives, ends and starts again, and every read is recorded before the next is asked for.
The two directions are settled one by one, so a restart has to show in each of them.
-/

namespace Nebula.Usage

open Schema Store ControlPlane Metering List

structure Counted where
  collectedAt : Instant
  value : Bytes

/-- A lifetime. If a bracketed change ended it, `missedAt` is when the read after it was asked for.
-/
structure Life where
  reads : List Counted
  missedAt : Option Instant

def Life.stamps (life : Life) : List Instant :=
  life.reads.map Counted.collectedAt ++ life.missedAt.toList

def Bytes.AtMost (first second : Bytes) : Prop :=
  first.rx ≤ second.rx ∧ first.tx ≤ second.tx
  deriving Decidable

/-- A counter only grows while it lives, and reads are stamped in the order they are recorded. -/
structure History where
  lives : List Life
  grows : ∀ life ∈ lives, (life.reads.map Counted.value).Pairwise Bytes.AtMost
  inOrder : (lives.flatMap Life.stamps).Pairwise (· ≤ ·)

def Life.lastRead (life : Life) : Bytes :=
  (life.reads.getLast?.map Counted.value).getD .zero

def Life.forgotten (life : Life) : Bool :=
  life.missedAt.isSome && !life.reads.isEmpty

def Life.leaves (life : Life) (last : Option Bytes) : Option Bytes :=
  if life.forgotten then none else (life.reads.getLast?.map Counted.value).or last

/-- Whenever a read follows one of an earlier lifetime in the ledger, `shows` tells them apart. -/
def resetsShow (shows : Bytes → Bytes → Bool) : Option Bytes → List Life → Bool
  | _, [] => true
  | last, life :: rest =>
    (last.all fun before => life.reads.head?.all fun first => shows before first.value) &&
      resetsShow shows (life.leaves last) rest

def lowerInOne (before first : Bytes) : Bool :=
  first.rx < before.rx || first.tx < before.tx

def lowerInEach (before first : Bytes) : Bool :=
  (first.rx < before.rx || before.rx == 0) && (first.tx < before.tx || before.tx == 0)

/-! ## Recording a history -/

section

variable (protocol : Protocol) (identity : Identity)

def Counted.reading (counted : Counted) : CounterReading where
  samples := [sampleOf protocol identity counted.value counted.collectedAt]
  sourcesRead := [protocol]
  collectedAt := counted.collectedAt

def missedReading (collectedAt : Instant) : CounterReading where
  samples := []
  sourcesRead := [protocol]
  collectedAt := collectedAt

variable (usage : List CredentialUsage)

def recordReading (reading : CounterReading) :
    List CredentialUsage :=
  reading.samples.foldl applySample usage

/-- `_after_change` with what the read before the change listed. -/
def afterChange (before after : CounterReading) :
    List CredentialUsage :=
  forgetCounters (recordReading usage after) (goneCounters before after) after.collectedAt

def recordReads (reads : List Counted) : List CredentialUsage :=
  reads.foldl (fun ledger counted => recordReading ledger (counted.reading protocol identity))
    usage

def recordLife (life : Life) : List CredentialUsage :=
  let ledger := recordReads protocol identity usage life.reads
  match life.missedAt, life.reads.getLast? with
  | some missedAt, some before =>
    afterChange ledger (before.reading protocol identity) (missedReading protocol missedAt)
  | _, _ => ledger

def History.record (history : History) (usage : List CredentialUsage) : List CredentialUsage :=
  history.lives.foldl (recordLife protocol identity) usage

end

/-! ## Each direction is a meter -/

def Life.lifetime (direction : Direction) (life : Life) : Lifetime where
  readings := life.reads.map fun counted => counted.value.of direction
  forgotten := life.forgotten

variable (direction : Direction)

theorem lifetime_ordered {life : Life}
    (grows : (life.reads.map Counted.value).Pairwise Bytes.AtMost) :
    (life.lifetime direction).readings.Pairwise (· ≤ ·) := by
  have below : ∀ first second : Bytes, first.AtMost second →
      first.of direction ≤ second.of direction := by
    intro first second atMost
    cases direction with
    | rx => exact atMost.1
    | tx => exact atMost.2
  have mapped := grows.map (fun value => value.of direction) below
  rwa [map_map] at mapped

def Awaits (row : CredentialUsage) (stamps : List Instant) : Prop :=
  ∀ stamp ∈ stamps, olderReading stamp row.lastCollectedAt = false

section

variable {protocol : Protocol} {identity : Identity} {usage : List CredentialUsage}

variable {later : List Instant}

theorem awaits_of_stamp {row : CredentialUsage} {stamp : Instant}
    (written : row.lastCollectedAt = some stamp) (order : ∀ other ∈ later, stamp ≤ other) :
    Awaits row later := by
  intro other member
  rw [written]
  simpa [olderReading] using order other member

theorem recordReading_counted {counted : Counted}
    (current : olderReading counted.collectedAt
      (counterRow usage protocol identity).lastCollectedAt = false) :
    let row := counterRow (recordReading usage (counted.reading protocol identity)) protocol
      identity
    row.lastCollectedAt = some counted.collectedAt ∧
      ∀ direction, meterOf row direction =
        (meterOf (counterRow usage protocol identity) direction).read
          (counted.value.of direction) := by
  have recorded : counterRow (recordReading usage (counted.reading protocol identity)) protocol
      identity = recordedUsage (sampleOf protocol identity counted.value counted.collectedAt)
        (counterRow usage protocol identity) :=
    counterRow_applySample usage protocol identity
  rw [recorded]
  constructor
  · simp [recordedUsage, sampleOf, current]
  · intro direction
    exact meterOf_recorded _ protocol identity direction current

theorem recordReads_meter {reads : List Counted}
    (order : (reads.map Counted.collectedAt ++ later).Pairwise (· ≤ ·))
    (awaits : Awaits (counterRow usage protocol identity)
      (reads.map Counted.collectedAt ++ later)) :
    let row := counterRow (recordReads protocol identity usage reads) protocol identity
    Awaits row later ∧
      ∀ direction, meterOf row direction =
        (meterOf (counterRow usage protocol identity) direction).readAll
          (reads.map fun counted => counted.value.of direction) := by
  induction reads generalizing usage with
  | nil => exact ⟨awaits, fun _ => rfl⟩
  | cons counted rest ih =>
    obtain ⟨above, restOrder⟩ := pairwise_cons.mp order
    obtain ⟨stamp, meters⟩ := recordReading_counted (awaits counted.collectedAt mem_cons_self)
    obtain ⟨restAwaits, restMeters⟩ := ih restOrder (awaits_of_stamp stamp above)
    refine ⟨restAwaits, ?_⟩
    intro direction
    rw [map_cons, Meter.readAll, foldl_cons, ← meters direction]
    exact restMeters direction

theorem afterChange_missed {before : Counted} {missedAt : Instant}
    (current : olderReading missedAt (counterRow usage protocol identity).lastCollectedAt = false)
    (order : ∀ stamp ∈ later, missedAt ≤ stamp) :
    let row := counterRow (afterChange usage (before.reading protocol identity)
      (missedReading protocol missedAt)) protocol identity
    Awaits row later ∧
      ∀ direction, meterOf row direction =
        (meterOf (counterRow usage protocol identity) direction).forget := by
  have gone : goneCounters (before.reading protocol identity) (missedReading protocol missedAt) =
      [(protocol, identity)] := by
    simp [goneCounters, Counted.reading, missedReading, sampleOf, CounterReading.present]
  have rewritten : counterRow (afterChange usage (before.reading protocol identity)
      (missedReading protocol missedAt)) protocol identity =
        ((usage.find? (sameCounter protocol identity)).map (forgottenUsage missedAt)).getD
          ⟨protocol, identity, 0, 0, 0, 0, none⟩ := by
    unfold counterRow afterChange forgetCounters
    rw [gone, find?_updateWhere _ protocol identity _
      (fun row => sameCounter_forgotten row protocol identity)]
    cases found : usage.find? (sameCounter protocol identity) with
    | none => simp [recordReading, missedReading, found]
    | some row =>
      have own : sameCounter protocol identity row = true := find?_some found
      simp [recordReading, missedReading, found, own]
  rw [rewritten]
  unfold counterRow at current ⊢
  cases found : usage.find? (sameCounter protocol identity) with
  | none =>
    refine ⟨fun _ _ => rfl, ?_⟩
    intro direction
    cases direction <;> rfl
  | some row =>
    rw [found] at current
    simp only [Option.map_some, Option.getD_some] at current ⊢
    refine ⟨awaits_of_stamp ?_ order, ?_⟩
    · simp [forgottenUsage, current]
    · intro direction
      exact meterOf_forgotten row direction current

theorem recordLife_meter {life : Life}
    (order : (life.stamps ++ later).Pairwise (· ≤ ·))
    (awaits : Awaits (counterRow usage protocol identity) (life.stamps ++ later)) :
    let row := counterRow (recordLife protocol identity usage life) protocol identity
    Awaits row later ∧
      ∀ direction, meterOf row direction =
        (meterOf (counterRow usage protocol identity) direction).live
          (life.lifetime direction) := by
  unfold Life.stamps at order awaits
  rw [append_assoc] at order awaits
  obtain ⟨readAwaits, readMeters⟩ := recordReads_meter order awaits
  have laterOrder := (pairwise_append.mp order).2.1
  cases forgotten : life.forgotten with
  | false =>
    have same : recordLife protocol identity usage life =
        recordReads protocol identity usage life.reads := by
      unfold Life.forgotten at forgotten
      unfold recordLife
      cases missed : life.missedAt <;> simp_all
    rw [same]
    refine ⟨fun stamp member => readAwaits stamp (mem_append_right _ member), ?_⟩
    intro direction
    rw [readMeters direction]
    simp [Meter.live, Life.lifetime, forgotten]
  | true =>
    obtain ⟨missedAt, missed, before, last⟩ : ∃ missedAt, life.missedAt = some missedAt ∧
        ∃ before, life.reads.getLast? = some before := by
      simp only [Life.forgotten, Bool.and_eq_true, Option.isSome_iff_exists] at forgotten
      obtain ⟨⟨missedAt, missed⟩, listed⟩ := forgotten
      exact ⟨missedAt, missed, _, getLast?_eq_some_getLast (by simpa using listed)⟩
    rw [missed] at readAwaits laterOrder
    have step : recordLife protocol identity usage life =
        afterChange (recordReads protocol identity usage life.reads)
          (before.reading protocol identity) (missedReading protocol missedAt) := by
      simp [recordLife, missed, last]
    obtain ⟨lastAwaits, lastMeters⟩ := afterChange_missed
      (readAwaits missedAt mem_cons_self)
      (pairwise_cons.mp laterOrder).1
    rw [step]
    refine ⟨lastAwaits, ?_⟩
    intro direction
    rw [lastMeters direction, readMeters direction]
    simp [Meter.live, Life.lifetime, forgotten]

theorem record_meter {lives : List Life} (order : (lives.flatMap Life.stamps).Pairwise (· ≤ ·))
    (awaits : Awaits (counterRow usage protocol identity) (lives.flatMap Life.stamps))
    {direction : Direction} :
    meterOf (counterRow (lives.foldl (recordLife protocol identity) usage) protocol identity)
        direction =
      (lives.map (Life.lifetime direction)).foldl Meter.live
        (meterOf (counterRow usage protocol identity) direction) := by
  induction lives generalizing usage with
  | nil => rfl
  | cons life rest ih =>
    obtain ⟨restAwaits, meters⟩ := recordLife_meter order awaits
    rw [foldl_cons, map_cons, foldl_cons, ← meters direction]
    exact ih (pairwise_append.mp order).2.1 restAwaits

end

theorem lastReading_lifetime (life : Life) :
    (life.lifetime direction).lastReading = life.lastRead.of direction := by
  unfold Lifetime.lastReading Life.lifetime Life.lastRead
  rw [getLastD_eq_getLast?, getLast?_map]
  cases life.reads.getLast? with
  | none => simp
  | some counted => rfl

theorem visible_of_lowerInEach {lives : List Life} (last : Option Bytes)
    (shows : resetsShow lowerInEach last lives = true) :
    Visible ((last.map fun value => value.of direction).getD 0)
      (lives.map (Life.lifetime direction)) := by
  induction lives generalizing last with
  | nil => trivial
  | cons life rest ih =>
    rw [resetsShow, Bool.and_eq_true] at shows
    obtain ⟨first, others⟩ := shows
    constructor
    · intro reading read
      simp only [Life.lifetime, head?_map, Option.mem_def, Option.map_eq_some_iff] at read
      obtain ⟨counted, head, rfl⟩ := read
      cases last with
      | none => exact Or.inr rfl
      | some before =>
        simp only [head, Option.all_some, lowerInEach, Bool.and_eq_true, Bool.or_eq_true,
          decide_eq_true_eq, beq_iff_eq] at first
        cases direction with
        | rx => exact first.1
        | tx => exact first.2
    · have left : ((life.leaves last).map fun value => value.of direction).getD 0 =
          if (life.lifetime direction).forgotten then 0
          else (life.lifetime direction).readings.getLastD
            ((last.map fun value => value.of direction).getD 0) := by
        unfold Life.leaves Life.lifetime
        rw [getLastD_eq_getLast?, getLast?_map]
        cases life.forgotten with
        | true => rfl
        | false => cases life.reads.getLast? <;> rfl
      rw [← left]
      exact ih (life.leaves last) others

theorem recordedUsage_twice (sample : UsageSample) (row : CredentialUsage) :
    recordedUsage sample (recordedUsage sample row) = recordedUsage sample row := by
  cases older : olderReading sample.collectedAt row.lastCollectedAt with
  | true => simp [recordedUsage, older]
  | false =>
    have again : olderReading sample.collectedAt (some sample.collectedAt) = false := by
      simp [olderReading]
    have nothing : ∀ reading, readingDelta reading reading = 0 := by simp [readingDelta]
    simp [recordedUsage, older, again, nothing]

theorem applySample_twice {usage : List CredentialUsage} {sample : UsageSample} :
    applySample (applySample usage sample) sample = applySample usage sample := by
  have kept : ∀ row, sameCounter sample.protocol sample.identity (recordedUsage sample row) =
      sameCounter sample.protocol sample.identity row :=
    fun row => sameCounter_recorded row sample.protocol sample.identity
  have present : (applySample usage sample).any
      (sameCounter sample.protocol sample.identity) = true := by
    simp only [applySample, updateWhere, any_map, Function.comp_def]
    have same : ∀ row : CredentialUsage, sameCounter sample.protocol sample.identity
        (if sameCounter sample.protocol sample.identity row then recordedUsage sample row
          else row) = sameCounter sample.protocol sample.identity row := by
      intro row
      split
      · exact kept row
      · rfl
    simp only [same]
    split
    · assumption
    · simp [sameCounter]
  have once : applySample (applySample usage sample) sample =
      updateWhere (sameCounter sample.protocol sample.identity) (recordedUsage sample)
        (applySample usage sample) := by
    rw [applySample, if_pos present]
  rw [once]
  simp only [applySample, updateWhere, map_map]
  apply map_congr_left
  intro row _
  simp only [Function.comp_def]
  split
  · rename_i own
    rw [if_pos (by rw [kept row]; exact own), recordedUsage_twice]
  · rfl

/-- When every restart shows, the totals are the sums of the last values read, and reads recorded
again change nothing. -/
theorem sequential_reads_exact (protocol : Protocol) (identity : Identity)
    (usage : List CredentialUsage) (history : History)
    (unseen : usage.any (sameCounter protocol identity) = false)
    (shows : resetsShow lowerInEach none history.lives = true) :
    (counterRow (history.record protocol identity usage) protocol identity).rxBytes =
        (history.lives.map fun life => life.lastRead.rx).sum ∧
      (counterRow (history.record protocol identity usage) protocol identity).txBytes =
        (history.lives.map fun life => life.lastRead.tx).sum ∧
      ∀ (ledger : List CredentialUsage) (counted : Counted),
        recordReading (recordReading ledger (counted.reading protocol identity))
            (counted.reading protocol identity) =
          recordReading ledger (counted.reading protocol identity) := by
  have empty : counterRow usage protocol identity = ⟨protocol, identity, 0, 0, 0, 0, none⟩ := by
    have none : usage.find? (sameCounter protocol identity) = none := by
      simpa [find?_eq_none] using unseen
    rw [counterRow, none]
    rfl
  have totals : ∀ direction,
      (meterOf (counterRow (history.record protocol identity usage) protocol identity)
        direction).total = (history.lives.map fun life => life.lastRead.of direction).sum := by
    intro direction
    have awaits : Awaits (counterRow usage protocol identity)
        (history.lives.flatMap Life.stamps) := by
      rw [empty]
      exact fun _ _ => rfl
    have start : meterOf (counterRow usage protocol identity) direction = ⟨0, 0⟩ := by
      rw [empty]
      cases direction <;> rfl
    have settled := exactly_settled ⟨0, 0⟩
      (by
        intro lifetime member
        obtain ⟨life, inHistory, rfl⟩ := mem_map.mp member
        exact lifetime_ordered direction (history.grows life inHistory))
      (visible_of_lowerInEach direction none shows)
    rw [History.record, record_meter history.inOrder awaits , start, settled, map_map, Nat.zero_add]
    congr 1
    exact map_congr_left fun life _ => lastReading_lifetime direction life
  exact ⟨totals .rx, totals .tx, fun ledger counted =>
    applySample_twice⟩

def restartedThenChanged : History where
  lives := [⟨[⟨1, ⟨60, 40⟩⟩, ⟨2, ⟨100, 40⟩⟩], none⟩, ⟨[⟨3, ⟨70, 10⟩⟩], some 4⟩,
    ⟨[⟨5, ⟨90, 20⟩⟩], none⟩]
  grows := by decide
  inOrder := by decide

theorem sequential_reads_exact_restartedThenChanged :
    (counterRow (restartedThenChanged.record .xray (.client 7) []) .xray (.client 7)).rxBytes =
        260 ∧
      (counterRow (restartedThenChanged.record .xray (.client 7) []) .xray
        (.client 7)).txBytes = 70 := by
  obtain ⟨rx, tx, _⟩ := sequential_reads_exact .xray (.client 7) [] restartedThenChanged rfl
    (by decide)
  exact ⟨rx, tx⟩

def caughtUpInOneDirection : History where
  lives := [⟨[⟨1, ⟨100, 100⟩⟩], none⟩, ⟨[⟨2, ⟨150, 20⟩⟩], none⟩]
  grows := by decide
  inOrder := by decide

theorem under_counted_caughtUpInOneDirection :
    resetsShow lowerInOne none caughtUpInOneDirection.lives = true ∧
      (counterRow (caughtUpInOneDirection.record .xray (.client 7) []) .xray
        (.client 7)).rxBytes ≠
        (caughtUpInOneDirection.lives.map fun life => life.lastRead.rx).sum := by
  decide

end Nebula.Usage
