import Mathlib.Algebra.Order.BigOperators.Group.List
import Mathlib.Algebra.Order.Group.Nat
import Nebula.Usage.Counters

/-!
# Where a reading stands

Everything a credential was served is one axis as long as one server counts at a time.
A reading stands on it where it was taken, and the ledger's row stands where the last
reading it took in does.
-/

namespace Nebula.Usage

open Schema Store ControlPlane Metering List Option

def meterOf (usage : CredentialUsage) : Direction → Meter
  | .rx => ⟨usage.rxBytes, usage.lastRxReading⟩
  | .tx => ⟨usage.txBytes, usage.lastTxReading⟩

section

variable (usage : List CredentialUsage) (row : CredentialUsage) (protocol : Protocol)
  (identity : Identity) (direction : Direction)

def sampleOf (value : Bytes) (collectedAt : Instant) : UsageSample :=
  ⟨protocol, identity, value.rx, value.tx, collectedAt⟩

variable {collectedAt : Instant}

theorem meterOf_recorded {value : Bytes}
    (current : olderReading collectedAt row.lastCollectedAt = false) :
    meterOf (recordedUsage (sampleOf protocol identity value collectedAt) row) direction =
      (meterOf row direction).read (value.of direction) := by
  simp only [recordedUsage, sampleOf, current, Bool.false_eq_true, if_false]
  cases direction <;> rfl

theorem meterOf_forgotten
    (current : olderReading collectedAt row.lastCollectedAt = false) :
    meterOf (forgottenUsage collectedAt row) direction = (meterOf row direction).forget := by
  simp only [forgottenUsage, current, Bool.false_eq_true, if_false]
  cases direction <;> rfl

theorem sameCounter_recorded {sample : UsageSample} :
    sameCounter protocol identity (recordedUsage sample row) =
      sameCounter protocol identity row := by
  unfold recordedUsage
  split <;> rfl

theorem sameCounter_forgotten :
    sameCounter protocol identity (forgottenUsage collectedAt row) =
      sameCounter protocol identity row := by
  unfold forgottenUsage
  split <;> rfl

theorem find?_updateWhere (selected : CredentialUsage → Bool)
    {write : CredentialUsage → CredentialUsage}
    (same : ∀ row, sameCounter protocol identity (write row) = sameCounter protocol identity row) :
    (updateWhere selected write usage).find? (sameCounter protocol identity) =
      (usage.find? (sameCounter protocol identity)).map fun row =>
        if selected row then write row else row := by
  unfold updateWhere
  rw [find?_map]
  congr 1
  apply find?_congr
  intro row _
  simp only [Function.comp_def]
  split
  · exact same row
  · rfl

theorem counterRow_applySample {value : Bytes} :
    counterRow (applySample usage (sampleOf protocol identity value collectedAt)) protocol
        identity =
      recordedUsage (sampleOf protocol identity value collectedAt)
        (counterRow usage protocol identity) := by
  have own : ∀ row, usage.find? (sameCounter protocol identity) = some row →
      sameCounter protocol identity row = true := by
    intro row found
    exact find?_some found
  unfold counterRow applySample
  dsimp only [sampleOf]
  rw [find?_updateWhere _ protocol identity _
    (fun row => sameCounter_recorded row protocol identity)]
  cases found : usage.find? (sameCounter protocol identity) with
  | some row =>
    have present : usage.any (sameCounter protocol identity) = true :=
      any_eq_true.mpr ⟨row, mem_of_find?_eq_some found, own row found⟩
    simp [present, found, own row found]
  | none =>
    have absent : usage.any (sameCounter protocol identity) = false := by
      simpa [find?_eq_none] using found
    simp [absent, found, sameCounter]

theorem counterRow_forget {gone : List (Protocol × Identity)} :
    counterRow (forgetCounters usage gone collectedAt) protocol identity =
        counterRow usage protocol identity ∨
      gone ≠ [] ∧ counterRow (forgetCounters usage gone collectedAt) protocol identity =
        forgottenUsage collectedAt (counterRow usage protocol identity) := by
  unfold counterRow forgetCounters
  rw [find?_updateWhere _ protocol identity _
    (fun row => sameCounter_forgotten row protocol identity)]
  cases found : usage.find? (sameCounter protocol identity) with
  | none => exact Or.inl rfl
  | some row =>
    simp only [map_some, getD_some]
    split
    · rename_i selected
      refine Or.inr ⟨?_, rfl⟩
      intro empty
      simp [empty] at selected
    · exact Or.inl rfl

end

def Taken.reached (taken : Taken) : Bool :=
  taken.found != .unread

def Reader.held : Reader → List Taken
  | .polling _ _ collected => collected
  | .recordingBefore taken | .recordingAfter _ _ taken | .forgetting _ taken => [taken]
  | _ => []

def Reader.due (reader : Reader) : List Taken :=
  reader.held.filter Taken.reached

def World.inFlight (world : World) : List Taken :=
  world.readers.flatMap fun entry => entry.2.due

def Taken.moment (taken : Taken) (direction : Direction) : Moment where
  counted := taken.served.of direction
  started :=
    match taken.found with
    | .listed value => some (taken.served.of direction - value.of direction)
    | _ => none

def World.moment (world : World) (serverId : Uuid) (direction : Direction) : Moment where
  counted := world.served.of direction
  started := (world.counters serverId).running.map fun value =>
    world.served.of direction - value.of direction

structure Past (world : World) (moments : Direction → Moment) : Prop where
  counted : ∀ direction, (moments direction).counted ≤ world.served.of direction
  precedes : ∀ direction serverId, Precedes (moments direction) (world.moment serverId direction)

structure OneCounts (world : World) : Prop where
  one : ∀ first second, (world.counters first).running ≠ none →
    (world.counters second).running ≠ none → first = second
  member : ∀ serverId, (world.counters serverId).running ≠ none → serverId ∈ world.servers

def Taken.Sound (taken : Taken) : Prop :=
  ∀ value, taken.found = .listed value →
    ∀ direction, value.of direction ≤ taken.served.of direction

inductive Moves (event : Event) (serverId : Uuid) : Counter → Counter → Prop
  | counted (ended value bytes : Bytes) :
    Moves event serverId ⟨ended, some value⟩ ⟨ended, some (value.add bytes)⟩
  | restarted (ended value : Bytes) :
    Moves event serverId ⟨ended, some value⟩ ⟨ended.add value, some .zero⟩
  | removed (ended value : Bytes) :
    Moves event serverId ⟨ended, some value⟩ ⟨ended.add value, none⟩
  | appeared (ended : Bytes) (happened : event = .appear serverId) :
    Moves event serverId ⟨ended, none⟩ ⟨ended, some .zero⟩

variable {event : Event}

theorem moves_of_moveCounter {old new : Counter} {serverId : Uuid}
    (moved : moveCounter old serverId event = some new) : Moves event serverId old new := by
  obtain ⟨ended, running⟩ := old
  unfold moveCounter at moved
  split at moved
  · split at moved
    · cases running with
      | none => cases moved
      | some value =>
        cases moved
        exact .counted ended value _
    · cases moved
  · split at moved
    · cases running with
      | none => cases moved
      | some value =>
        cases moved
        exact .restarted ended value
    · cases moved
  · split at moved
    · cases running with
      | none => cases moved
      | some value =>
        cases moved
        exact .removed ended value
    · cases moved
  · split at moved
    · rename_i target chosen
      obtain ⟨same, missing⟩ := chosen
      cases missing
      cases moved
      rw [same]
      exact .appeared ended rfl
    · cases moved
  · cases moved

section

variable {world : World}

theorem served_of (world : World) (direction : Direction) :
    world.served.of direction =
      (world.servers.map fun serverId => (world.counters serverId).served.of direction).sum := by
  cases direction <;> rfl

variable {counter : Counter}

theorem served_setCounter {serverId : Uuid} {direction : Direction}
    (grown : Nat) (member : serverId ∈ world.servers)
    (grows : counter.served.of direction = (world.counters serverId).served.of direction + grown) :
    (world.setCounter serverId counter).served.of direction =
      world.served.of direction + grown := by
  rw [served_of, served_of]
  apply sum_map_grown world.distinct member
  · intro other different
    simp only [World.setCounter, if_neg different]
  · simpa only [World.setCounter, if_true] using grows

theorem oneCounts_move {serverId : Uuid}
    (counts : OneCounts world) (member : serverId ∈ world.servers)
    (moves : Moves event serverId (world.counters serverId) counter)
    (alone : event = .appear serverId → ∀ other, (world.counters other).running ≠ none →
      other = serverId) : OneCounts (world.setCounter serverId counter) := by
  -- Once the counter moves, it is the only one that can run.
  have only : ∀ other, (world.counters other).running ≠ none → other = serverId := by
    intro other runs
    generalize old : world.counters serverId = held at moves
    cases moves with
    | appeared ended happened => exact alone happened other runs
    | _ => exact counts.one other serverId runs (by rw [old]; nofun)
  have still : ∀ other, ((world.setCounter serverId counter).counters other).running ≠ none →
      other = serverId := by
    intro other runs
    by_cases same : other = serverId
    · exact same
    · simp only [World.setCounter, if_neg same] at runs
      exact only other runs
  constructor
  · intro first second firstRuns secondRuns
    rw [still first firstRuns, still second secondRuns]
  · intro other runs
    rw [still other runs]
    exact member

theorem precedes_started (moment later : Moment) (order : moment.counted ≤ later.counted)
    (start : ∀ start ∈ later.started, start = later.counted) : Precedes moment later := by
  refine ⟨order, ?_⟩
  intro begun running
  rw [start begun running]
  exact Or.inr order

section

variable (moments : Direction → Moment) (past : Past world moments)
variable {serverId : Uuid} (member : serverId ∈ world.servers)
include past

theorem precedes_elsewhere {direction : Direction} {other : Uuid}
    (different : other ≠ serverId)
    (idle : (world.setCounter serverId counter).served.of direction = world.served.of direction ∨
      (world.counters other).running = none)
    (grows : world.served.of direction ≤ (world.setCounter serverId counter).served.of direction) :
    Precedes (moments direction)
      ((world.setCounter serverId counter).moment other direction) := by
  have before := past.precedes direction other
  have untouched : (world.setCounter serverId counter).counters other =
      world.counters other := by
    simp only [World.setCounter, if_neg different]
  refine ⟨Nat.le_trans (past.counted direction) grows, ?_⟩
  intro start running
  simp only [World.moment, untouched] at running
  rcases idle with same | none
  · rw [same] at running
    exact before.lifetime start running
  · rw [none] at running
    cases running

include member

theorem past_started (counter : Counter)
    (same : counter.served = (world.counters serverId).served)
    (zero : ∀ value ∈ counter.running, value = Bytes.zero) :
    Past (world.setCounter serverId counter) moments := by
  have served : ∀ direction, (world.setCounter serverId counter).served.of direction =
      world.served.of direction := by
    intro direction
    exact served_setCounter 0 member (by rw [same]; rfl)
  refine ⟨fun direction => served direction ▸ past.counted direction, ?_⟩
  intro direction other
  by_cases here : other = serverId
  swap
  · exact precedes_elsewhere moments past here (Or.inl (served direction)) (served direction).ge
  subst here
  apply precedes_started
  · simp only [World.moment, served]
    exact past.counted direction
  intro start running
  obtain ⟨value, runs, begins⟩ := map_eq_some_iff.mp running
  have chosen : counter.running = some value := by
    simpa only [World.setCounter, if_true] using runs
  rw [← begins, zero value chosen, Bytes.of_zero]
  rfl

theorem past_move (counts : OneCounts world)
    (moves : Moves event serverId (world.counters serverId) counter) :
    Past (world.setCounter serverId counter) moments := by
  have started := past_started moments past member
  generalize old : world.counters serverId = held at moves
  rw [old] at started
  cases moves with
  | counted ended value bytes =>
    -- Traffic lengthens the axis and the counter alike.
    have grown : ∀ direction, (world.setCounter serverId
        ⟨ended, some (value.add bytes)⟩).served.of direction =
          world.served.of direction + bytes.of direction := by
      intro direction
      apply served_setCounter _ member
      simp [Counter.served, old, Nat.add_assoc]
    have longer : ∀ direction, (moments direction).counted ≤
        world.served.of direction + bytes.of direction :=
      fun direction => Nat.le_trans (past.counted direction) (Nat.le_add_right _ _)
    refine ⟨fun direction => grown direction ▸ longer direction, ?_⟩
    intro direction other
    by_cases here : other = serverId
    · subst here
      constructor
      · simp only [World.moment, grown]
        exact longer direction
      intro start running
      apply (past.precedes direction other).lifetime start
      have chosen : (world.setCounter other ⟨ended, some (value.add bytes)⟩).counters other =
          ⟨ended, some (value.add bytes)⟩ := by
        simp only [World.setCounter, if_true]
      simp only [World.moment, chosen, grown, old, map_some, Bytes.of_add,
        Nat.add_sub_add_right] at running ⊢
      exact running
    · refine precedes_elsewhere moments past here (Or.inr ?_) ?_
      · by_contra runs
        exact here (counts.one other serverId runs (by rw [old]; nofun))
      · rw [grown]
        omega
  | restarted | appeared =>
    apply started
    · rfl
    · intro running same
      cases same
      rfl
  | removed ended value =>
    apply started
    · rfl
    · intro running same
      cases same

end

end

/-! ## What a step does -/

structure SameCounters (world next : World) : Prop where
  protocol : next.protocol = world.protocol
  identity : next.identity = world.identity
  servers : next.servers = world.servers
  counters : next.counters = world.counters

def Reader.isPoll : Reader → Bool
  | .polling _ _ _ => true
  | _ => false

def Reader.targets : Reader → List Uuid
  | .polling waiting asked _ => asked.toList.map Read.serverId ++ waiting
  | .readingBefore asked => [asked.serverId]
  | .recordingBefore before | .changing before | .recordingAfter before _ _ => [before.serverId]
  | .readingAfter before _ asked => [before.serverId, asked.serverId]
  | .forgetting _ _ => []

structure Continues (reader : Reader) (due : List Taken) (following : Reader) : Prop where
  poll : following.isPoll = reader.isPoll
  targets : ∀ serverId ∈ following.targets, serverId ∈ reader.targets
  due : following.due = [] ∨ following.due = due

def ReadersAfter (world next : World) (id : ReaderId) (reader : Reader) (due : List Taken) :
    Prop :=
  ∀ entry ∈ next.readers, (entry ∈ world.readers ∧ entry.1 ≠ id) ∨
    (entry.1 = id ∧ Continues reader due entry.2)

inductive Changes (world : World) (event : Event) (next : World) : Prop
  | moved (serverId : Uuid) (counter : Counter) (member : serverId ∈ world.servers)
    (moves : Moves event serverId (world.counters serverId) counter)
    (written : next = world.setCounter serverId counter)
  | began (reader : Reader) (started : reader.due = [])
    (targets : ∀ serverId ∈ reader.targets, serverId ∈ world.servers)
    (bracket : reader.isPoll = false → ∃ serverId now, event = .change serverId now)
    (poll : reader.isPoll = true → ∃ servers, event = .poll servers)
    (same : SameCounters world next) (usage : next.usage = world.usage)
    (readers : next.readers = world.readers ++ [(world.nextReader, reader)])
  | went (id : ReaderId) (reader : Reader) (held : (id, reader) ∈ world.readers)
    (same : SameCounters world next) (usage : next.usage = world.usage)
    (readers : ReadersAfter world next id reader reader.due)
  | took (id : ReaderId) (reached : Bool) (reader : Reader) (read : Read)
    (happened : event = .take id reached) (held : (id, reader) ∈ world.readers)
    (found : world.reader id = some reader) (asked : reader.asked = some read)
    (same : SameCounters world next) (usage : next.usage = world.usage)
    (readers : ReadersAfter world next id reader
      (reader.due ++ [world.take read reached].filter Taken.reached))
  | recorded (id : ReaderId) (reader : Reader) (collected : List Taken) (written : Bool)
    (held : (id, reader) ∈ world.readers)
    (due : reader.due = collected.filter Taken.reached)
    (same : SameCounters world next)
    (usage : next.usage = if written then world.recorded collected else world.usage)
    (readers : ReadersAfter world next id reader reader.due)
    (ends : reader.isPoll = true → ∀ entry ∈ next.readers, entry.1 ≠ id)
  | forgot (id : ReaderId) (before after : Taken) (written : Bool)
    (held : (id, .forgetting before after) ∈ world.readers)
    (same : SameCounters world next)
    (usage : next.usage =
      if written then
        forgetCounters world.usage
          (goneCounters (before.reading world.protocol world.identity)
            (after.reading world.protocol world.identity)) after.collectedAt
      else world.usage)
    (readers : ReadersAfter world next id (.forgetting before after) [])

section

variable (world : World) (id : ReaderId)

theorem mem_goOn (next : Option Reader) (entry : ReaderId × Reader)
    (member : entry ∈ (world.goOn id next).readers) :
    (entry ∈ world.readers ∧ entry.1 ≠ id) ∨ (entry.1 = id ∧ some entry.2 = next) := by
  cases next with
  | none =>
    obtain ⟨held, other⟩ := mem_filter.mp member
    exact Or.inl ⟨held, by simpa using other⟩
  | some reader =>
    obtain ⟨old, held, same⟩ := mem_map.mp member
    split at same
    · rw [← same]
      exact Or.inr ⟨rfl, rfl⟩
    · rename_i other
      rw [← same]
      exact Or.inl ⟨held, other⟩

variable {reader : Reader}

theorem readersAfter_goOn (next : Option Reader) {after : World}
    {due : List Taken} (readers : after.readers = (world.goOn id next).readers)
    (continues : ∀ following ∈ next, Continues reader due following) :
    ReadersAfter world after id reader due := by
  intro entry member
  rw [readers] at member
  rcases mem_goOn world id next entry member with old | ⟨own, same⟩
  · exact Or.inl old
  · exact Or.inr ⟨own, continues entry.2 same.symm⟩

theorem sameCounters_goOn (next : Option Reader) : SameCounters world (world.goOn id next) := by
  cases next <;> exact ⟨rfl, rfl, rfl, rfl⟩

theorem ask_continues {protocol : Protocol} {identity : Identity} {now : Instant}
    {next : Reader} (asks : reader.ask protocol identity now = some next) :
    Continues reader reader.due next := by
  unfold Reader.ask at asks
  split at asks
  · cases asks
    exact ⟨rfl, by simp [Reader.targets], Or.inr rfl⟩
  · cases asks
    exact ⟨rfl, by simp [Reader.targets], Or.inl rfl⟩
  · split at asks
    · cases asks
      exact ⟨rfl, by simp [Reader.targets], Or.inl rfl⟩
    · cases asks
  · cases asks

theorem receive_continues (taken : Taken) (read : Read) (reader next : Reader)
    (asked : reader.asked = some read) (own : taken.serverId = read.serverId)
    (receives : reader.receive taken = some next) :
    Continues reader (reader.due ++ [taken].filter Taken.reached) next := by
  unfold Reader.receive at receives
  split at receives
  · cases receives
    refine ⟨rfl, ?_, Or.inr ?_⟩
    · intro serverId later
      exact mem_append_right _ later
    · simp only [Reader.due, Reader.held, filter_append]
  · cases receives
    cases asked
    refine ⟨rfl, ?_, Or.inr rfl⟩
    intro serverId later
    rw [mem_singleton.mp later, own]
    exact mem_cons_self
  · cases receives
    refine ⟨rfl, ?_, Or.inr rfl⟩
    intro serverId later
    rw [mem_singleton.mp later]
    exact mem_cons_self
  · cases receives

theorem record_continues {protocol : Protocol} {identity : Identity}
    {collected : List Taken} {next : Option Reader}
    (records : reader.record protocol identity = some (collected, next)) :
    reader.due = collected.filter Taken.reached ∧ (reader.isPoll = true → next = none) ∧
      ∀ following ∈ next, Continues reader reader.due following := by
  unfold Reader.record at records
  split at records
  · cases records
    exact ⟨rfl, fun _ => rfl, nofun⟩
  · cases records
    refine ⟨rfl, nofun, ?_⟩
    intro following same
    cases same
    exact ⟨rfl, fun _ later => later, Or.inl rfl⟩
  · split at records
    · cases records
    cases records
    refine ⟨rfl, nofun, ?_⟩
    intro following same
    cases same
    exact ⟨rfl, nofun, Or.inr rfl⟩
  · cases records

theorem stepReader_changes {next : World}
    (found : world.reader id = some reader) (own : event.reader = some id)
    (taken : stepReader world id reader event = some next) : Changes world event next := by
  have held : (id, reader) ∈ world.readers := by
    obtain ⟨entry, looked, second⟩ := map_eq_some_iff.mp found
    obtain ⟨member, first⟩ := lookup_mem looked
    rw [← first, ← second]
    exact member
  cases event with
  | ask _ now =>
    simp only [stepReader] at taken
    split at taken
    · obtain ⟨following, asks, same⟩ := map_eq_some_iff.mp taken
      subst same
      refine .went id reader held ⟨rfl, rfl, rfl, rfl⟩ rfl ?_
      refine readersAfter_goOn world id (some following) rfl ?_
      intro other same
      cases same
      exact ask_continues asks
    · cases taken
  | take _ reached =>
    cases own
    obtain ⟨read, asked, received⟩ := bind_eq_some_iff.mp taken
    obtain ⟨following, receives, same⟩ := map_eq_some_iff.mp received
    subst same
    refine .took id reached reader read rfl held found asked ⟨rfl, rfl, rfl, rfl⟩ rfl ?_
    refine readersAfter_goOn world id (some following) rfl ?_
    intro other same
    cases same
    exact receive_continues _ read reader following asked rfl receives
  | fail _ =>
    obtain ⟨following, fails, same⟩ := map_eq_some_iff.mp taken
    subst same
    refine .went id reader held (sameCounters_goOn world id following)
      (by cases following <;> rfl) ?_
    refine readersAfter_goOn world id following rfl ?_
    intro other same
    rw [same] at fails
    unfold Reader.fail at fails
    split at fails
    · cases fails
      exact ⟨rfl, fun _ later => mem_append_right _ later, Or.inr rfl⟩
    · cases fails
    · cases fails
    · cases fails
  | record _ written =>
    obtain ⟨⟨collected, following⟩, records, same⟩ := map_eq_some_iff.mp taken
    subst same
    obtain ⟨due, ends, left⟩ := record_continues records
    have frame := sameCounters_goOn world id following
    refine .recorded id reader collected written held due
      ⟨frame.protocol, frame.identity, frame.servers, frame.counters⟩ rfl
      (readersAfter_goOn world id following rfl left) ?_
    intro poll entry member
    cases ends poll
    rcases mem_goOn world id none entry member with ⟨_, other⟩ | ⟨_, none⟩
    · exact other
    · cases none
  | forget _ written =>
    simp only [stepReader] at taken
    split at taken
    · rename_i before after
      cases taken
      exact .forgot id before after written held ⟨rfl, rfl, rfl, rfl⟩ rfl
        (readersAfter_goOn world id none rfl nofun)
    · cases taken
  | crash _ =>
    cases taken
    exact .went id reader held ⟨rfl, rfl, rfl, rfl⟩ rfl (readersAfter_goOn world id none rfl nofun)
  | _ => cases own

theorem step_changes {next : World} (taken : step world event = some next) :
    Changes world event next := by
  unfold step at taken
  split at taken
  · split at taken
    · rename_i known
      cases taken
      refine .began (.polling _ none []) rfl ?_ nofun (fun _ => ⟨_, rfl⟩)
        ⟨rfl, rfl, rfl, rfl⟩ rfl rfl
      intro serverId polled
      simpa using all_eq_true.mp known serverId polled
    · cases taken
  · split at taken
    · rename_i accepted
      cases taken
      refine .began (.readingBefore _) rfl ?_ (fun _ => ⟨_, _, rfl⟩) nofun
        ⟨rfl, rfl, rfl, rfl⟩ rfl rfl
      intro target named
      rw [mem_singleton.mp named]
      exact accepted.2
    · cases taken
  · split at taken
    · rename_i serverId _
      split at taken
      · rename_i member
        obtain ⟨counter, moved, same⟩ := map_eq_some_iff.mp taken
        exact .moved serverId counter member (moves_of_moveCounter moved) same.symm
      · cases taken
    · rename_i reader _ own
      obtain ⟨running, found, stepped⟩ := bind_eq_some_iff.mp taken
      exact stepReader_changes world reader found own stepped
    · cases taken

end

/-! ## What a reading does to the row -/

section

variable (protocol : Protocol) (identity : Identity) (row : CredentialUsage)

def recordTaken (row : CredentialUsage) (taken : Taken) : CredentialUsage :=
  match taken.found with
  | .listed value => recordedUsage (sampleOf protocol identity value taken.collectedAt) row
  | .unread | .missing => row

theorem recordTaken_cases (taken : Taken) :
    recordTaken protocol identity row taken = row ∨
      ∃ value, taken.found = .listed value ∧
        olderReading taken.collectedAt row.lastCollectedAt = false ∧
        recordTaken protocol identity row taken =
          recordedUsage (sampleOf protocol identity value taken.collectedAt) row := by
  unfold recordTaken
  cases found : taken.found with
  | unread | missing => exact Or.inl rfl
  | listed value =>
    cases older : olderReading taken.collectedAt row.lastCollectedAt with
    | true => exact Or.inl (by simp [recordedUsage, sampleOf, older])
    | false => exact Or.inr ⟨value, rfl, rfl, rfl⟩

theorem upTo_recorded {mark : Direction → Moment} {taken : Taken} {value : Bytes}
    (upTo : ∀ direction, (meterOf row direction).UpTo (mark direction))
    (found : taken.found = .listed value) (sound : taken.Sound)
    (current : olderReading taken.collectedAt row.lastCollectedAt = false)
    (follows : ∀ direction, Precedes (mark direction) (taken.moment direction))
    (direction : Direction) :
    (meterOf (recordedUsage (sampleOf protocol identity value taken.collectedAt) row)
      direction).UpTo (taken.moment direction) := by
  have within := sound value found direction
  have started : (taken.moment direction).started =
      some (taken.served.of direction - value.of direction) := by
    simp only [Taken.moment, found]
  have reading : (taken.moment direction).counted -
      (taken.served.of direction - value.of direction) = value.of direction := by
    simp only [Taken.moment]
    omega
  rw [meterOf_recorded row protocol identity direction current, ← reading]
  exact (upTo direction).read _ _ (follows direction) started (Nat.sub_le _ _)

theorem missing_of_gone {before after : Taken}
    (gone : goneCounters (before.reading protocol identity)
      (after.reading protocol identity) ≠ []) :
    after.found = .missing := by
  obtain ⟨counter, member⟩ := exists_mem_of_ne_nil _ gone
  obtain ⟨listed, kept⟩ := mem_filter.mp member
  obtain ⟨sample, sampled, named⟩ := mem_map.mp listed
  have own : counter = (protocol, identity) := by
    rw [← named]
    unfold Taken.reading at sampled
    split at sampled
    · rw [mem_singleton.mp sampled]
    · cases sampled
    · cases sampled
  subst own
  cases found : after.found with
  | missing => rfl
  | unread => simp [Taken.reading, found] at kept
  | listed value => simp [Taken.reading, found, CounterReading.present] at kept

theorem take_found (world : World) (read : Read) (reached : Bool) :
    (world.take read reached).found = .unread ∨
      ((world.take read reached).found = .missing ∧ (world.counters read.serverId).running = none) ∨
      ∃ value, (world.take read reached).found = .listed value ∧
        (world.counters read.serverId).running = some value := by
  unfold World.take
  cases reached with
  | false => exact Or.inl rfl
  | true =>
    cases running : (world.counters read.serverId).running with
    | none => exact Or.inr (Or.inl ⟨by simp, rfl⟩)
    | some value => exact Or.inr (Or.inr ⟨value, by simp, rfl⟩)

theorem take_moment {world : World} {read : Read} {reached : Bool}
    (hit : (world.take read reached).reached = true) {direction : Direction} :
    (world.take read reached).moment direction = world.moment read.serverId direction := by
  have served : (world.take read reached).served = world.served := rfl
  rcases take_found world read reached with unread | ⟨missing, idle⟩ | ⟨value, listed, running⟩
  · simp [Taken.reached, unread] at hit
  · simp only [Taken.moment, World.moment, missing, idle, served, map_none]
  · simp only [Taken.moment, World.moment, listed, running, served, map_some]

theorem take_sound {world : World} (counts : OneCounts world) {read : Read} {reached : Bool} :
    (world.take read reached).Sound := by
  intro value found direction
  have served : (world.take read reached).served = world.served := rfl
  rw [served]
  rcases take_found world read reached with unread | ⟨missing, _⟩ | ⟨shown, listed, running⟩
  · rw [unread] at found
    cases found
  · rw [missing] at found
    cases found
  rw [listed] at found
  cases found
  have member := counts.member read.serverId (by rw [running]; nofun)
  rw [served_of]
  refine Nat.le_trans ?_ (single_le_sum (fun _ _ => Nat.zero_le _) _
    (mem_map.mpr ⟨read.serverId, member, rfl⟩))
  simp only [Counter.served, running, getD_some, Bytes.of_add]
  omega

end

section

variable {world next : World}

section

variable (same : SameCounters world next)
include same

theorem served_same : next.served = world.served := by
  unfold World.served
  rw [same.servers, same.counters]

theorem past_same {moments : Direction → Moment}
    (past : Past world moments) : Past next moments := by
  have served := served_same same
  refine ⟨fun direction => served ▸ past.counted direction, ?_⟩
  intro direction serverId
  have here : next.moment serverId direction = world.moment serverId direction := by
    unfold World.moment
    rw [served, same.counters]
  rw [here]
  exact past.precedes direction serverId

theorem oneCounts_same (counts : OneCounts world) : OneCounts next := by
  constructor
  · rw [same.counters]
    exact counts.one
  · rw [same.counters, same.servers]
    exact counts.member

theorem row_same (usage : next.usage = world.usage) : next.row = world.row := by
  unfold World.row
  rw [same.protocol, same.identity, usage]

theorem row_recorded {collected : List Taken} (usage : next.usage = world.recorded collected) :
    next.row = collected.foldl (recordTaken world.protocol world.identity) world.row := by
  unfold World.row
  rw [same.protocol, same.identity, usage]
  unfold World.recorded
  clear usage
  generalize world.usage = ledger
  induction collected generalizing ledger with
  | nil => rfl
  | cons taken rest ih =>
    simp only [flatMap_cons, foldl_append, foldl_cons]
    rw [ih]
    congr 1
    cases found : taken.found with
    | listed value =>
      simp only [Taken.reading, found, recordTaken, foldl_cons, foldl_nil]
      exact counterRow_applySample ledger world.protocol world.identity
    | unread | missing => simp [Taken.reading, found, recordTaken]

end

end

end Nebula.Usage
