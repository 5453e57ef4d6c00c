import Nebula.Usage.Overlap

/-!
# One key on several servers

The ledger keeps one last reading for a key. When two servers count the same key, each
poll reads both, and the lower counter looks like one that started again.
-/

namespace Nebula.Usage

open Schema Runs ControlPlane Metering List

def pollsInTurn (world : World) : Event → Bool
  | .poll _ => world.readers.isEmpty
  | .change _ _ => false
  | _ => true

def countedByOne (world : World) : Event → Bool
  | .appear serverId =>
    world.servers.all fun other =>
      other == serverId || (world.counters other).running.isNone
  | _ => true

/-! ## Readings in the order they were taken -/

def Taken.Lists (taken : Taken) : Prop :=
  ∃ value, taken.found = .listed value

def InTurn (first second : Taken) : Prop :=
  first.Lists → second.Lists →
    ∀ direction, Precedes (first.moment direction) (second.moment direction)

structure Polled (world : World) (mark : Direction → Moment) : Prop where
  counts : OneCounts world
  polls : ∀ entry ∈ world.readers, entry.2.isPoll = true
  alone : ∀ first ∈ world.readers, ∀ second ∈ world.readers, first.1 = second.1
  upTo : ∀ direction, (meterOf world.row direction).UpTo (mark direction)
  past : Past world mark
  sound : ∀ taken ∈ world.inFlight, taken.Sound
  takenPast : ∀ taken ∈ world.inFlight, taken.Lists → Past world taken.moment
  follows : ∀ taken ∈ world.inFlight, taken.Lists →
    ∀ direction, Precedes (mark direction) (taken.moment direction)
  inTurn : ∀ entry ∈ world.readers, entry.2.due.Pairwise InTurn

section

variable {world : World} (next : World)

theorem foldl_reached (protocol : Protocol) (identity : Identity) (collected : List Taken)
    (row : CredentialUsage) :
    (collected.filter Taken.reached).foldl (recordTaken protocol identity) row =
      collected.foldl (recordTaken protocol identity) row := by
  rw [foldl_filter]
  congr 1
  funext row taken
  split
  · rfl
  · rename_i unread
    have found : taken.found = .unread := by simpa [Taken.reached] using unread
    simp only [recordTaken, found]

theorem upTo_inTurn {protocol : Protocol} {identity : Identity} {collected : List Taken}
    (row : CredentialUsage) (mark : Direction → Moment)
    (upTo : ∀ direction, (meterOf row direction).UpTo (mark direction))
    (past : Past world mark) (sound : ∀ taken ∈ collected, taken.Sound)
    (takenPast : ∀ taken ∈ collected, taken.Lists → Past world taken.moment)
    (follows : ∀ taken ∈ collected, taken.Lists →
      ∀ direction, Precedes (mark direction) (taken.moment direction))
    (inTurn : collected.Pairwise InTurn) :
    ∃ moved, (∀ direction, (meterOf (collected.foldl (recordTaken protocol identity) row)
      direction).UpTo (moved direction)) ∧ Past world moved := by
  induction collected generalizing row mark with
  | nil => exact ⟨mark, upTo, past⟩
  | cons taken rest ih =>
    obtain ⟨first, restInTurn⟩ := pairwise_cons.mp inTurn
    have restSound : ∀ later ∈ rest, later.Sound := fun later member =>
      sound later (mem_cons_of_mem taken member)
    have restPast : ∀ later ∈ rest, later.Lists → Past world later.moment :=
      fun later member => takenPast later (mem_cons_of_mem taken member)
    rw [foldl_cons]
    rcases recordTaken_cases protocol identity row taken with same | ⟨value, found, current, same⟩
    · rw [same]
      exact ih row mark upTo past restSound restPast
        (fun later member => follows later (mem_cons_of_mem taken member)) restInTurn
    have lists : taken.Lists := ⟨value, found⟩
    rw [same]
    refine ih _ taken.moment ?_ (takenPast taken mem_cons_self lists) restSound restPast
      ?_ restInTurn
    · exact upTo_recorded protocol identity row upTo found
        (sound taken mem_cons_self) current
        (follows taken mem_cons_self lists)
    · exact fun later member => first later member lists

section

variable {mark : Direction → Moment}

theorem polled_moved (polled : Polled world mark) {event : Event}
    (one : countedByOne world event = true) {target : Uuid} {counter : Counter}
    (member : target ∈ world.servers) (moves : Moves event target (world.counters target) counter) :
    Polled (world.setCounter target counter) mark where
  counts := by
    apply oneCounts_move polled.counts member moves
    intro happened other runs
    subst happened
    have listed := polled.counts.member other runs
    have idle := all_eq_true.mp one other listed
    simp only [Bool.or_eq_true, beq_iff_eq, Option.isNone_iff_eq_none] at idle
    exact idle.resolve_right runs
  polls := polled.polls
  alone := polled.alone
  upTo := polled.upTo
  past := past_move mark polled.past member polled.counts moves
  sound := polled.sound
  takenPast := fun taken held lists =>
    past_move taken.moment (polled.takenPast taken held lists) member
      polled.counts moves
  follows := polled.follows
  inTurn := polled.inTurn

theorem polled_idle {moved : Direction → Moment} (polled : Polled world mark)
    (same : SameCounters world next) (none : next.readers = [])
    (upTo : ∀ direction, (meterOf next.row direction).UpTo (moved direction))
    (past : Past world moved) : Polled next moved := by
  have empty : next.inFlight = [] := by
    rw [World.inFlight, none]
    rfl
  refine
    { counts := oneCounts_same same polled.counts
      polls := by simp [none]
      alone := by simp [none]
      upTo := upTo
      past := past_same same past
      sound := by simp [empty]
      takenPast := by simp [empty]
      follows := by simp [empty]
      inTurn := by simp [none] }

theorem polled_after (polled : Polled world mark) {id : ReaderId}
    {reader : Reader} {added : List Taken} (held : (id, reader) ∈ world.readers)
    (same : SameCounters world next) (usage : next.usage = world.usage)
    (readers : ReadersAfter world next id reader (reader.due ++ added))
    (addedSound : ∀ taken ∈ added, taken.Sound)
    (addedPast : ∀ taken ∈ added, taken.Lists → Past world taken.moment)
    (addedLast : ∀ taken ∈ added, taken.Lists → ∀ moments, Past world moments →
      ∀ direction, Precedes (moments direction) (taken.moment direction))
    (short : added.length ≤ 1) : Polled next mark := by
  have row := row_same same usage
  have member := inFlight_after held readers
  have ownInFlight : ∀ taken ∈ reader.due, taken ∈ world.inFlight := by
    intro taken due
    exact (mem_inFlight world).mpr ⟨(id, reader), held, due⟩
  have ids : ∀ entry ∈ next.readers, entry.1 = id := by
    intro entry present
    rcases readers entry present with ⟨old, _⟩ | ⟨own, _⟩
    · exact polled.alone entry old (id, reader) held
    · exact own
  refine
    { counts := oneCounts_same same polled.counts
      polls := ?_
      alone := fun first firstPresent second secondPresent =>
        (ids first firstPresent).trans (ids second secondPresent).symm
      upTo := row ▸ polled.upTo
      past := past_same same polled.past
      sound := ?_
      takenPast := ?_
      follows := ?_
      inTurn := ?_ }
  · intro entry present
    rcases readers entry present with ⟨old, _⟩ | ⟨_, goesOn⟩
    · exact polled.polls entry old
    · exact goesOn.poll.trans (polled.polls (id, reader) held)
  · intro taken present
    rcases member taken present with old | new
    · exact polled.sound taken old
    · exact addedSound taken new
  · intro taken present lists
    apply past_same same
    rcases member taken present with old | new
    · exact polled.takenPast taken old lists
    · exact addedPast taken new lists
  · intro taken present lists
    rcases member taken present with old | new
    · exact polled.follows taken old lists
    · exact addedLast taken new lists mark polled.past
  · intro entry present
    rcases readers entry present with ⟨old, _⟩ | ⟨_, goesOn⟩
    · exact polled.inTurn entry old
    rcases goesOn.due with none | grown
    · rw [none]
      exact Pairwise.nil
    rw [grown]
    refine pairwise_append.mpr ⟨polled.inTurn (id, reader) held, ?_, ?_⟩
    · match added, short with
      | [], _ => exact Pairwise.nil
      | [_], _ => exact pairwise_singleton _ _
    · intro first old second new firstLists secondLists
      exact addedLast second new secondLists first.moment
        (polled.takenPast first (ownInFlight first old) firstLists)

theorem polled_took (polled : Polled world mark) {id : ReaderId}
    {reached : Bool} {reader : Reader} {read : Read} (held : (id, reader) ∈ world.readers)
    (same : SameCounters world next) (usage : next.usage = world.usage)
    (readers : ReadersAfter world next id reader
      (reader.due ++ [world.take read reached].filter Taken.reached)) : Polled next mark := by
  have hits : ∀ taken ∈ [world.take read reached].filter Taken.reached,
      taken = world.take read reached ∧ (world.take read reached).reached = true := by
    intro taken present
    obtain ⟨listed, hit⟩ := mem_filter.mp present
    rw [mem_singleton] at listed
    exact ⟨listed, listed ▸ hit⟩
  refine polled_after next polled held same usage readers ?_ ?_ ?_ (length_filter_le _ _)
  · intro taken present
    rw [(hits taken present).1]
    exact take_sound polled.counts
  · intro taken present lists
    obtain ⟨new, hit⟩ := hits taken present
    rw [new] at lists ⊢
    refine past_take ?_ hit
    obtain ⟨value, found⟩ := lists
    rcases take_found world read reached with unread | ⟨missing, _⟩ | ⟨shown, _, running⟩
    · rw [unread] at found
      cases found
    · rw [missing] at found
      cases found
    · intro other runs
      exact polled.counts.one other read.serverId runs (by rw [running]; nofun)
  · intro taken present _ moments past
    obtain ⟨new, hit⟩ := hits taken present
    rw [new]
    exact precedes_take past hit

end

theorem step_polled {event : Event} {mark : Direction → Moment} (polled : Polled world mark)
    (inTurn : pollsInTurn world event = true) (one : countedByOne world event = true)
    (taken : step world event = some next) : ∃ moved, Polled next moved := by
  cases step_changes world taken with
  | moved target counter member moves written =>
    rw [written]
    exact ⟨mark, polled_moved polled one member moves⟩
  | began reader started _ bracket poll same usage readers =>
    cases kind : reader.isPoll with
    | false =>
      obtain ⟨serverId, now, happened⟩ := bracket kind
      rw [happened] at inTurn
      cases inTurn
    | true =>
      obtain ⟨servers, happened⟩ := poll kind
      rw [happened] at inTurn
      have idle : world.readers = [] := by simpa [pollsInTurn] using inTurn
      rw [idle, nil_append] at readers
      have empty : next.inFlight = [] := by
        simp [World.inFlight, readers, started]
      exact ⟨mark,
        { counts := oneCounts_same same polled.counts
          polls := by simp [readers, kind]
          alone := by simp [readers]
          upTo := row_same same usage ▸ polled.upTo
          past := past_same same polled.past
          sound := by simp [empty]
          takenPast := by simp [empty]
          follows := by simp [empty]
          inTurn := by simp [readers, started] }⟩
  | went id reader held same usage readers =>
    refine ⟨mark, polled_after next polled held same usage ?_
      (forall_mem_nil _) (forall_mem_nil _) (forall_mem_nil _) (Nat.zero_le 1)⟩
    rwa [append_nil]
  | took id reached reader read _ held _ _ same usage readers =>
    exact ⟨mark, polled_took next polled held same usage readers⟩
  | recorded id reader collected written held due same usage readers ends =>
    have none : next.readers = [] := by
      apply eq_nil_iff_forall_not_mem.mpr
      intro entry present
      have other := ends (polled.polls (id, reader) held) entry present
      rcases readers entry present with ⟨old, _⟩ | ⟨own, _⟩
      · exact other (polled.alone entry old (id, reader) held)
      · exact other own
    cases written with
    | false =>
      refine ⟨mark, polled_idle next polled same none ?_ polled.past⟩
      rw [row_same same usage]
      exact polled.upTo
    | true =>
      have row : next.row =
          reader.due.foldl (recordTaken world.protocol world.identity) world.row := by
        rw [due, foldl_reached]
        exact row_recorded same usage
      have own : ∀ taken ∈ reader.due, taken ∈ world.inFlight := by
        intro taken member
        exact (mem_inFlight world).mpr ⟨(id, reader), held, member⟩
      obtain ⟨moved, upTo, past⟩ := upTo_inTurn
        world.row mark polled.upTo polled.past
        (fun taken member => polled.sound taken (own taken member))
        (fun taken member => polled.takenPast taken (own taken member))
        (fun taken member => polled.follows taken (own taken member))
        (polled.inTurn (id, reader) held)
      refine ⟨moved, polled_idle next polled same none ?_ past⟩
      rw [row]
      exact upTo
  | forgot id before after _ held _ _ _ => cases polled.polls _ held

end

theorem polled_fresh (protocol : Protocol) {identity : Identity} {servers : List Uuid}
    (distinct : servers.Nodup) :
    Polled (fresh protocol identity servers distinct) fun _ => ⟨0, none⟩ where
  counts := ⟨fun _ _ runs => absurd rfl runs, fun _ runs => absurd rfl runs⟩
  polls := nofun
  alone := nofun
  upTo := by
    intro direction
    cases direction <;> exact upTo_zero 0
  past := ⟨fun _ => Nat.zero_le _, fun _ _ => ⟨Nat.zero_le _, nofun⟩⟩
  sound := nofun
  takenPast := nofun
  follows := nofun
  inTurn := nofun

/-- If one server at a time counts the key, the totals stay within what was served. -/
theorem polled_totals_within_served (protocol : Protocol) (identity : Identity)
    (servers : List Uuid) (distinct : servers.Nodup) (events : List Event)
    (meets : RunMeets step
      (fun world event => pollsInTurn world event = true ∧ countedByOne world event = true)
      events (fresh protocol identity servers distinct)) :
    AlwaysAlong step WithinServed events (fresh protocol identity servers distinct) := by
  refine alwaysAlong_of_invariant (fun world => ∃ mark, Polled world mark)
    WithinServed ?_ ?_ ⟨_, polled_fresh protocol distinct⟩ meets
  · intro world event next polled guarded taken
    obtain ⟨mark, polled⟩ := polled
    exact step_polled next polled guarded.1 guarded.2 taken
  · intro world polled
    obtain ⟨mark, polled⟩ := polled
    exact withinServed_of_upTo polled.upTo polled.past

def movedBetweenPolls : List Event :=
  [.appear 3, .traffic 3 ⟨100, 5⟩, .poll [3, 6], .ask 0 1, .take 0 true, .ask 0 2, .take 0 true,
    .record 0 true, .remove 3, .appear 6, .traffic 6 ⟨10, 8⟩, .poll [3, 6], .ask 1 3,
    .take 1 true, .ask 1 4, .take 1 true, .record 1 true]

theorem polled_totals_within_served_movedBetweenPolls :
    RunMeets step
        (fun world event => pollsInTurn world event = true ∧ countedByOne world event = true)
        movedBetweenPolls (fresh .wireguard (.peer 7) [3, 6] (by decide)) ∧
      AlwaysAlong step WithinServed movedBetweenPolls
        (fresh .wireguard (.peer 7) [3, 6] (by decide)) :=
  ⟨by decide +kernel,
    polled_totals_within_served .wireguard (.peer 7) [3, 6] (by decide) movedBetweenPolls
      (by decide +kernel)⟩

/-- Two servers have served 100 and 10 bytes. Two polls without traffic in between record 210. -/
def onTwoServers : List Event :=
  [.appear 3, .traffic 3 ⟨100, 0⟩, .appear 6, .traffic 6 ⟨10, 0⟩, .poll [3, 6], .ask 0 1,
    .take 0 true, .ask 0 2, .take 0 true, .record 0 true, .poll [3, 6], .ask 1 3, .take 1 true,
    .ask 1 4, .take 1 true, .record 1 true]

theorem over_counted_onTwoServers :
    RunMeets step (pollsInTurn · ·) onTwoServers (fresh .wireguard (.peer 7) [3, 6] (by decide)) ∧
      ¬ AlwaysAlong step WithinServed onTwoServers
        (fresh .wireguard (.peer 7) [3, 6] (by decide)) :=
  ⟨by decide +kernel,
    not_alwaysAlong WithinServed onTwoServers _ (by decide +kernel)⟩

end Nebula.Usage
