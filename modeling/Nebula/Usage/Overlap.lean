import Nebula.Usage.Readings

/-!
# Overlapping reads of one server

Readings of a row are ordered by when they were asked for. Their figures are taken
later, and a read asked for first can take them last: recorded first, it makes the
other one look like a counter that started again.
-/

namespace Nebula.Usage

open Schema Runs ControlPlane Metering List

/-- The totals recorded for the credential are within what it was truly served. -/
def WithinServed (world : World) : Prop :=
  world.row.rxBytes ≤ world.served.rx ∧ world.row.txBytes ≤ world.served.tx
  deriving Decidable

/-- A read takes its figures before any asked for at the same time or later, if they are not in the
ledger already. -/
def sampledInOrder (world : World) : Event → Bool
  | .take id _ =>
    match (world.reader id).bind Reader.asked with
    | some read => world.inFlight.all fun taken => taken.collectedAt < read.askedAt
    | none => true
  | _ => true

/-! ## Readings apart from each other -/

def Before (first second : Taken) : Prop :=
  first.collectedAt < second.collectedAt ∧
    ∀ direction, Precedes (first.moment direction) (second.moment direction)

def Apart (inFlight : List Taken) : Prop :=
  ∀ first ∈ inFlight, ∀ second ∈ inFlight,
    first = second ∨ Before first second ∨ Before second first

def Follows (inFlight : List Taken) (row : CredentialUsage) (mark : Direction → Moment) : Prop :=
  ∀ taken ∈ inFlight, olderReading taken.collectedAt row.lastCollectedAt = false →
    ∀ direction, Precedes (mark direction) (taken.moment direction)

structure Stands (world : World) (inFlight : List Taken) (row : CredentialUsage)
    (mark : Direction → Moment) : Prop where
  upTo : ∀ direction, (meterOf row direction).UpTo (mark direction)
  past : Past world mark
  follows : Follows inFlight row mark

section

variable {world : World} {inFlight : List Taken}

theorem follows_taken (apart : Apart inFlight) {taken : Taken} (member : taken ∈ inFlight)
    (row : CredentialUsage) (collected : row.lastCollectedAt = some taken.collectedAt) :
    Follows inFlight row taken.moment := by
  intro other otherMember current
  rw [collected] at current
  rcases apart taken member other otherMember with same | before | after
  · rw [same]
    exact fun direction => ⟨Nat.le_refl _, fun _ running => Or.inl running⟩
  · exact before.2
  · have older : other.collectedAt < taken.collectedAt := after.1
    simp [olderReading, older] at current

theorem stands_recorded {protocol : Protocol} {identity : Identity} (apart : Apart inFlight)
    (sound : ∀ taken ∈ inFlight, taken.Sound)
    (takenPast : ∀ taken ∈ inFlight, Past world taken.moment) {collected : List Taken}
    (row : CredentialUsage) (mark : Direction → Moment) (stands : Stands world inFlight row mark)
    (members : ∀ taken ∈ collected, taken.reached = true → taken ∈ inFlight) :
    ∃ moved,
      Stands world inFlight (collected.foldl (recordTaken protocol identity) row) moved := by
  induction collected generalizing row mark with
  | nil => exact ⟨mark, stands⟩
  | cons taken rest ih =>
    obtain ⟨moved, still⟩ : ∃ moved, Stands world inFlight (recordTaken protocol identity row
        taken) moved := by
      rcases recordTaken_cases protocol identity row taken with same | ⟨value, found, current, same⟩
      · rw [same]
        exact ⟨mark, stands⟩
      have held := (members taken mem_cons_self) (by simp [Taken.reached, found])
      refine ⟨taken.moment, ?_, takenPast taken held, ?_⟩
      · rw [same]
        exact upTo_recorded protocol identity row stands.upTo found
          (sound taken held) current (stands.follows taken held current)
      · apply follows_taken apart held
        rw [same]
        simp [recordedUsage, sampleOf, current]
    exact ih _ moved still fun later member =>
      members later (mem_cons_of_mem taken member)

end

structure InOrder (serverId : Uuid) (world : World) (mark : Direction → Moment) : Prop where
  single : world.servers = [serverId]
  counts : OneCounts world
  targets : ∀ entry ∈ world.readers, ∀ target ∈ entry.2.targets, target ∈ world.servers
  stands : Stands world world.inFlight world.row mark
  sound : ∀ taken ∈ world.inFlight, taken.Sound
  takenPast : ∀ taken ∈ world.inFlight, Past world taken.moment
  apart : Apart world.inFlight

section

variable {serverId : Uuid} {world next : World}

theorem mem_inFlight (world : World) {taken : Taken} :
    taken ∈ world.inFlight ↔ ∃ entry ∈ world.readers, taken ∈ entry.2.due := by
  simp [World.inFlight]

variable {reader : Reader} {id : ReaderId} {read : Read}

theorem inFlight_after {added : List Taken} (held : (id, reader) ∈ world.readers)
    (readers : ReadersAfter world next id reader (reader.due ++ added)) (taken : Taken)
    (member : taken ∈ next.inFlight) : taken ∈ world.inFlight ∨ taken ∈ added := by
  obtain ⟨entry, present, due⟩ := (mem_inFlight next).mp member
  rcases readers entry present with ⟨old, _⟩ | ⟨_, goesOn⟩
  · exact Or.inl ((mem_inFlight world).mpr ⟨entry, old, due⟩)
  rcases goesOn.due with none | same
  · rw [none] at due
    cases due
  rw [same] at due
  rcases mem_append.mp due with old | new
  · exact Or.inl ((mem_inFlight world).mpr ⟨(id, reader), held, old⟩)
  · exact Or.inr new

theorem inFlight_fewer {due : List Taken} (held : (id, reader) ∈ world.readers)
    (kept : ∀ taken ∈ due, taken ∈ reader.due) (readers : ReadersAfter world next id reader due)
    (taken : Taken) (member : taken ∈ next.inFlight) : taken ∈ world.inFlight := by
  obtain ⟨entry, present, listed⟩ := (mem_inFlight next).mp member
  rcases readers entry present with ⟨old, _⟩ | ⟨_, goesOn⟩
  · exact (mem_inFlight world).mpr ⟨entry, old, listed⟩
  rcases goesOn.due with none | same
  · rw [none] at listed
    cases listed
  · rw [same] at listed
    exact (mem_inFlight world).mpr ⟨(id, reader), held, kept taken listed⟩

theorem targets_after {due : List Taken} (held : (id, reader) ∈ world.readers)
    (readers : ReadersAfter world next id reader due) (same : SameCounters world next)
    (targets : ∀ entry ∈ world.readers, ∀ target ∈ entry.2.targets, target ∈ world.servers) :
    ∀ entry ∈ next.readers, ∀ target ∈ entry.2.targets, target ∈ next.servers := by
  intro entry present target named
  rw [same.servers]
  rcases readers entry present with ⟨old, _⟩ | ⟨_, goesOn⟩
  · exact targets entry old target named
  · exact targets (id, reader) held target (goesOn.targets target named)

theorem asked_target (asked : reader.asked = some read) : read.serverId ∈ reader.targets := by
  cases reader with
  | polling waiting pending collected =>
    simp only [Reader.asked] at asked
    simp [asked, Reader.targets]
  | readingBefore pending =>
    cases asked
    exact mem_cons_self
  | readingAfter before attempts pending =>
    cases asked
    exact mem_cons_of_mem _ mem_cons_self
  | _ => cases asked

theorem inOrder_shrunk (mark moved : Direction → Moment) (ordered : InOrder serverId world mark)
    (same : SameCounters world next)
    (targets : ∀ entry ∈ next.readers, ∀ target ∈ entry.2.targets, target ∈ next.servers)
    (fewer : ∀ taken ∈ next.inFlight, taken ∈ world.inFlight)
    (stands : Stands world world.inFlight next.row moved) : InOrder serverId next moved where
  single := same.servers.trans ordered.single
  counts := oneCounts_same same ordered.counts
  targets := targets
  stands :=
    { upTo := stands.upTo
      past := past_same same stands.past
      follows := fun taken member => stands.follows taken (fewer taken member) }
  sound := fun taken member => ordered.sound taken (fewer taken member)
  takenPast := fun taken member =>
    past_same same (ordered.takenPast taken (fewer taken member))
  apart := fun first firstMember second secondMember =>
    ordered.apart first (fewer first firstMember) second (fewer second secondMember)

variable {reached : Bool}

theorem precedes_take {moments : Direction → Moment} (past : Past world moments)
    (hit : (world.take read reached).reached = true) (direction : Direction) :
    Precedes (moments direction) ((world.take read reached).moment direction) := by
  rw [take_moment hit]
  exact past.precedes direction read.serverId

theorem past_take (alone : ∀ other, (world.counters other).running ≠ none → other = read.serverId)
    (hit : (world.take read reached).reached = true) :
    Past world (world.take read reached).moment := by
  refine ⟨fun direction => Nat.le_refl _, ?_⟩
  intro direction other
  rw [take_moment hit]
  refine ⟨Nat.le_refl _, ?_⟩
  intro start running
  obtain ⟨value, runs, same⟩ := Option.map_eq_some_iff.mp running
  have here := alone other (by rw [runs]; nofun)
  subst here
  exact Or.inl (by simp only [World.moment, runs, Option.map_some, same])

theorem inOrder_took {mark : Direction → Moment} (ordered : InOrder serverId world mark)
    (inOrder : sampledInOrder world (.take id reached) = true)
    (held : (id, reader) ∈ world.readers) (found : world.reader id = some reader)
    (asked : reader.asked = some read) (same : SameCounters world next)
    (usage : next.usage = world.usage) (readers : ReadersAfter world next id reader
      (reader.due ++ [world.take read reached].filter Taken.reached)) :
    InOrder serverId next mark := by
  have member : ∀ taken ∈ next.inFlight, taken ∈ world.inFlight ∨
      (taken = world.take read reached ∧ (world.take read reached).reached = true) := by
    intro taken present
    rcases inFlight_after held readers taken present with old | new
    · exact Or.inl old
    · obtain ⟨listed, hit⟩ := mem_filter.mp new
      rw [mem_singleton] at listed
      exact Or.inr ⟨listed, listed ▸ hit⟩
  have own : read.serverId = serverId := by
    have known := ordered.targets (id, reader) held read.serverId (asked_target asked)
    rwa [ordered.single, mem_singleton] at known
  have stamped : (world.take read reached).collectedAt = read.askedAt := rfl
  have earlier : ∀ taken ∈ world.inFlight, (world.take read reached).reached = true →
      Before taken (world.take read reached) := by
    intro taken present hit
    simp only [sampledInOrder, found, Option.bind_some, asked, all_eq_true,
      decide_eq_true_eq] at inOrder
    exact ⟨stamped ▸ inOrder taken present, precedes_take (ordered.takenPast taken present) hit⟩
  have row := row_same same usage
  refine
    { single := same.servers.trans ordered.single
      counts := oneCounts_same same ordered.counts
      targets := targets_after held readers same ordered.targets
      stands := ⟨?_, past_same same ordered.stands.past, ?_⟩
      sound := ?_
      takenPast := ?_
      apart := ?_ }
  · rw [row]
    exact ordered.stands.upTo
  · intro taken present current
    rw [row] at current
    rcases member taken present with old | ⟨new, hit⟩
    · exact ordered.stands.follows taken old current
    · rw [new]
      exact precedes_take ordered.stands.past hit
  · intro taken present
    rcases member taken present with old | ⟨new, _⟩
    · exact ordered.sound taken old
    · rw [new]
      exact take_sound ordered.counts
  · intro taken present
    apply past_same same
    rcases member taken present with old | ⟨new, hit⟩
    · exact ordered.takenPast taken old
    rw [new]
    refine past_take ?_ hit
    intro other runs
    have listed := ordered.counts.member other runs
    rw [ordered.single, mem_singleton] at listed
    exact listed.trans own.symm
  · intro first firstPresent second secondPresent
    rcases member first firstPresent with old | ⟨new, hit⟩
    · rcases member second secondPresent with old' | ⟨new', hit'⟩
      · exact ordered.apart first old second old'
      · rw [new']
        exact Or.inr (Or.inl (earlier first old hit'))
    · rcases member second secondPresent with old' | ⟨new', _⟩
      · rw [new]
        exact Or.inr (Or.inr (earlier second old' hit))
      · exact Or.inl (new.trans new'.symm)

section

variable {mark : Direction → Moment} (ordered : InOrder serverId world mark)
variable (same : SameCounters world next)
variable (targets : ∀ entry ∈ next.readers, ∀ target ∈ entry.2.targets, target ∈ next.servers)
variable (fewer : ∀ taken ∈ next.inFlight, taken ∈ world.inFlight)
include ordered same targets fewer

theorem inOrder_still (row : next.row = world.row) : ∃ moved, InOrder serverId next moved := by
  refine ⟨mark, inOrder_shrunk mark mark ordered same targets fewer ?_⟩
  rw [row]
  exact ordered.stands

theorem inOrder_recorded {collected : List Taken}
    (usage : next.usage = world.recorded collected)
    (own : ∀ taken ∈ collected, taken.reached = true → taken ∈ world.inFlight) :
    ∃ moved, InOrder serverId next moved := by
  obtain ⟨moved, stands⟩ := stands_recorded
    ordered.apart ordered.sound ordered.takenPast world.row mark ordered.stands own
  refine ⟨moved, inOrder_shrunk mark moved ordered same targets fewer ?_⟩
  rw [row_recorded same usage]
  exact stands

theorem inOrder_forgot (id : ReaderId) {before after : Taken}
    (held : (id, .forgetting before after) ∈ world.readers)
    (usage : next.usage = forgetCounters world.usage
      (goneCounters (before.reading world.protocol world.identity)
        (after.reading world.protocol world.identity)) after.collectedAt) :
    ∃ moved, InOrder serverId next moved := by
  have row : next.row = counterRow (forgetCounters world.usage
      (goneCounters (before.reading world.protocol world.identity)
        (after.reading world.protocol world.identity)) after.collectedAt)
      world.protocol world.identity := by
    unfold World.row
    rw [same.protocol, same.identity, usage]
  rcases counterRow_forget world.usage world.protocol world.identity with kept | ⟨gone, forgotten⟩
  · exact inOrder_still ordered same targets fewer (row.trans kept)
  have missing := missing_of_gone world.protocol world.identity gone
  have present : after ∈ world.inFlight := by
    refine (mem_inFlight world).mpr ⟨_, held, ?_⟩
    simp [Reader.due, Reader.held, Taken.reached, missing]
  obtain ⟨moved, stands⟩ : ∃ moved, Stands world world.inFlight (forgottenUsage after.collectedAt
      world.row) moved := by
    cases older : olderReading after.collectedAt world.row.lastCollectedAt with
    | true =>
      refine ⟨mark, ?_⟩
      have same : forgottenUsage after.collectedAt world.row = world.row := by
        simp [forgottenUsage, older]
      rw [same]
      exact ordered.stands
    | false =>
      refine ⟨after.moment, ?_, ordered.takenPast after present, ?_⟩
      · intro direction
        rw [meterOf_forgotten world.row direction older]
        exact (ordered.stands.upTo direction).forget _ (ordered.stands.follows after present
            older direction).counted
          (by simp [Taken.moment, missing])
      · apply follows_taken ordered.apart present
        simp [forgottenUsage, older]
  refine ⟨moved, inOrder_shrunk mark moved ordered same targets fewer ?_⟩
  rw [row, forgotten]
  exact stands

end

theorem step_inOrder {event : Event} {mark : Direction → Moment}
    (ordered : InOrder serverId world mark) (inOrder : sampledInOrder world event = true)
    (taken : step world event = some next) : ∃ moved, InOrder serverId next moved := by
  cases step_changes world taken with
  | moved target counter member moves written =>
    rw [written]
    have past := fun moments held => past_move moments held member ordered.counts moves
    refine ⟨mark,
      { single := ordered.single
        counts := oneCounts_move ordered.counts member moves ?_
        targets := ordered.targets
        stands := ⟨ordered.stands.upTo, past mark ordered.stands.past, ordered.stands.follows⟩
        sound := ordered.sound
        takenPast := fun taken held => past taken.moment (ordered.takenPast taken held)
        apart := ordered.apart }⟩
    intro _ other runs
    have listed := ordered.counts.member other runs
    rw [ordered.single, mem_singleton] at listed member
    rw [listed, member]
  | began reader started targets _ _ same usage readers =>
    refine inOrder_still ordered same ?_ ?_ (row_same same usage)
    · intro entry present target named
      rw [same.servers]
      rw [readers] at present
      rcases mem_append.mp present with old | new
      · exact ordered.targets entry old target named
      · rw [mem_singleton.mp new] at named
        exact targets target named
    · intro taken present
      obtain ⟨entry, listed, due⟩ := (mem_inFlight next).mp present
      rw [readers] at listed
      rcases mem_append.mp listed with old | new
      · exact (mem_inFlight world).mpr ⟨entry, old, due⟩
      · rw [mem_singleton.mp new, started] at due
        cases due
  | went id reader held same usage readers =>
    exact inOrder_still ordered same
      (targets_after held readers same ordered.targets)
      (inFlight_fewer held (fun _ listed => listed) readers)
      (row_same same usage)
  | took id reached reader read happened held found asked same usage readers =>
    subst happened
    exact ⟨mark, inOrder_took ordered inOrder held found asked same usage readers⟩
  | recorded id reader collected written held due same usage readers _ =>
    have targets := targets_after held readers same ordered.targets
    have fewer := inFlight_fewer held (fun _ listed => listed) readers
    cases written with
    | false =>
      exact inOrder_still ordered same targets fewer (row_same same usage)
    | true =>
      refine inOrder_recorded ordered same targets fewer usage ?_
      intro taken present hit
      refine (mem_inFlight world).mpr ⟨(id, reader), held, ?_⟩
      rw [due]
      exact mem_filter.mpr ⟨present, hit⟩
  | forgot id before after written held same usage readers =>
    have targets := targets_after held readers same ordered.targets
    have fewer := inFlight_fewer held (forall_mem_nil _) readers
    cases written with
    | false =>
      exact inOrder_still ordered same targets fewer (row_same same usage)
    | true =>
      exact inOrder_forgot ordered same targets fewer id held usage

end

theorem inOrder_fresh (protocol : Protocol) {identity : Identity} {serverId : Uuid} :
    InOrder serverId (fresh protocol identity [serverId] (nodup_singleton serverId))
      fun _ => ⟨0, none⟩ where
  single := rfl
  counts := ⟨fun _ _ runs => absurd rfl runs, fun _ runs => absurd rfl runs⟩
  targets := nofun
  stands :=
    { upTo := by
        intro direction
        cases direction <;> exact upTo_zero 0
      past := ⟨fun _ => Nat.zero_le _, fun _ _ => ⟨Nat.zero_le _, nofun⟩⟩
      follows := nofun }
  sound := nofun
  takenPast := nofun
  apart := nofun

theorem withinServed_of_upTo {world : World} {mark : Direction → Moment}
    (upTo : ∀ direction, (meterOf world.row direction).UpTo (mark direction))
    (past : Past world mark) : WithinServed world :=
  ⟨Nat.le_trans (upTo .rx).total (past.counted .rx),
    Nat.le_trans (upTo .tx).total (past.counted .tx)⟩

/-- While `sampledInOrder`, the totals of one server stay within what was served. -/
theorem overlapping_reads_within_served (protocol : Protocol) (identity : Identity)
    (serverId : Uuid) (events : List Event)
    (meets : RunMeets step (sampledInOrder · ·) events
      (fresh protocol identity [serverId] (nodup_singleton serverId))) :
    AlwaysAlong step WithinServed events
      (fresh protocol identity [serverId] (nodup_singleton serverId)) := by
  refine alwaysAlong_of_invariant (fun world => ∃ mark, InOrder serverId world mark)
    WithinServed ?_ ?_ ⟨_, inOrder_fresh protocol⟩ meets
  · intro world event next ordered inOrder taken
    obtain ⟨mark, ordered⟩ := ordered
    exact step_inOrder ordered inOrder taken
  · intro world ordered
    obtain ⟨mark, ordered⟩ := ordered
    exact withinServed_of_upTo ordered.stands.upTo ordered.stands.past

def changedThenPolled : List Event :=
  [.appear 3, .traffic 3 ⟨10, 2⟩, .change 3 1, .take 0 true, .record 0 true, .remove 3,
    .ask 0 2, .take 0 true, .record 0 true, .forget 0 true, .appear 3, .traffic 3 ⟨15, 1⟩,
    .poll [3], .ask 1 3, .take 1 true, .record 1 true]

theorem overlapping_reads_within_served_changedThenPolled :
    RunMeets step (sampledInOrder · ·) changedThenPolled
        (fresh .wireguard (.peer 7) [3] (by decide)) ∧
      AlwaysAlong step WithinServed changedThenPolled
        (fresh .wireguard (.peer 7) [3] (by decide)) :=
  ⟨by decide +kernel,
    overlapping_reads_within_served .wireguard (.peer 7) 3 changedThenPolled
      (by decide +kernel)⟩

/-- A poll asks at 1, the read before a change at 2; it takes its figure at 10 bytes, the poll at
20, recorded first. -/
def askedFirstTakenLast : List Event :=
  [.appear 3, .traffic 3 ⟨10, 0⟩, .poll [3], .ask 0 1, .change 3 2, .take 1 true,
    .traffic 3 ⟨10, 0⟩, .take 0 true, .record 0 true, .record 1 true]

theorem over_counted_askedFirstTakenLast :
    ¬ AlwaysAlong step WithinServed askedFirstTakenLast
      (fresh .wireguard (.peer 7) [3] (by decide)) :=
  not_alwaysAlong WithinServed askedFirstTakenLast _ (by decide +kernel)

end Nebula.Usage
