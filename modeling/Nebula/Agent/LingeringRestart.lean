import Nebula.Agent.LiveClients

/-!
# When the watch restarts Xray

The watch is there for removed clients. An entry of its map goes when a live update serves the
client again; an update that restarts Xray leaves it, and the watch then takes the traffic of a
client that is served for that of one that is not.
-/

namespace Nebula.Agent.LiveClients

open Schema Runs List
open Agent.XrayCall (Inbounds RunEnd)

def clientsOf (inbounds : Inbounds) : List Email :=
  inbounds.flatMap Prod.snd

structure Noted where
  host : Host
  trails : List (Email × List Nat)

def movedPast : List Nat → Bool
  | [] => false
  | first :: later => later.any fun total => decide (first < total)

def Host.promotes (host : Host) : HostEvent → Option (List Email)
  | .apply .succeeded _ =>
    match host.apply with
    | some (.applyingHysteria removed) => some removed
    | _ => none
  | _ => none

variable (noted : Noted)

/-- A trail ends when its client is recorded again, and starts anew when it is removed. -/
def Noted.follow (event : HostEvent) : List (Email × List Nat) :=
  match noted.host.promotes event with
  | some removed =>
    (noted.trails.filter fun trail =>
      trail.1 ∉ clientsOf noted.host.file ∧ trail.1 ∉ removed) ++ removed.map (·, [])
  | none =>
    if event = .watch .measured then
      noted.trails.map fun trail => (trail.1, trail.2 ++ [totalOf noted.host.counters trail.1])
    else noted.trails

def Noted.step (event : HostEvent) : Option Noted :=
  (noted.host.step event).map fun next => ⟨next, noted.follow event⟩

/-- Xray restarts over a client out of the record that moved past its first reading. -/
def RestartsForMoved (event : HostEvent) (next : Noted) : Prop :=
  event = .watch .locked → next.host.watch = .restarting →
    ∃ trail ∈ noted.trails, trail.1 ∉ clientsOf noted.host.recorded ∧ movedPast trail.2 = true
  deriving Decidable

def WatchPhase.pending (watch : WatchPhase) (email : Email) : List Nat :=
  match watch with
  | .read totals => [totalOf totals email]
  | _ => []

/-- What becomes the record serves nobody under watch; a waiting restart leaves those who moved
alone, and nobody is removed beside a reading. -/
def leavesWatched (event : HostEvent) : Prop :=
  ∀ removed ∈ noted.host.promotes event,
    (∀ email ∈ clientsOf noted.host.file,
      email ∉ noted.host.lingering.map Watched.email ∧ email ∉ removed) ∧
    (noted.host.watch = .locking → ∀ trail ∈ noted.trails, movedPast trail.2 = true →
      trail.1 ∉ clientsOf noted.host.file ∧ trail.1 ∉ removed) ∧
    ∀ email ∈ removed, noted.host.watch.pending email = []
  deriving Decidable

structure Trailed : Prop where
  unrecorded : ∀ one ∈ noted.host.lingering, one.email ∉ clientsOf noted.host.recorded
  followed : ∀ one ∈ noted.host.lingering, ∃ past,
    (one.email, past ++ noted.host.watch.pending one.email) ∈ noted.trails ∧
      past.head? = one.baseline
  found : noted.host.watch = .locking → ∃ trail ∈ noted.trails,
    trail.1 ∉ clientsOf noted.host.recorded ∧ movedPast trail.2 = true

structure Quiet (host next : Host) : Prop where
  recorded : next.recorded = host.recorded
  lingering : next.lingering ⊆ host.lingering
  pending : next.watch.pending = host.watch.pending
  locking : next.watch = .locking → host.watch = .locking

section

variable {host next : Host} {noted : Noted}

theorem quiet_same (same : (next.recorded, next.watch, next.lingering) =
    (host.recorded, host.watch, host.lingering)) : Quiet host next := by
  simp only [Prod.mk.injEq] at same
  obtain ⟨recorded, watch, lingering⟩ := same
  exact ⟨recorded, by rw [lingering]; exact Subset.refl _, by rw [watch], by simp [watch]⟩

theorem quiet_nextQuery (host : Host) (todo : Inbounds) (removed : List Email)
    (additions : List (ProfileCode × Email)) :
    Quiet host (host.nextQuery todo removed additions) := by
  unfold Host.nextQuery
  split
  · exact quiet_same rfl
  · split <;> exact quiet_same rfl

theorem applyStep_quiet {outcome : RunEnd} {done : List Email}
    (taken : host.applyStep outcome done = some next)
    (other : host.promotes (.apply outcome done) = none) : Quiet host next := by
  unfold Host.applyStep at taken
  cases outcome with
  | failed | timedOut => split at taken <;> cases taken <;> exact quiet_same rfl
  | succeeded =>
    split at taken <;> cases taken
    case h_2 tag clients rest removed additions _ =>
      unfold Host.compare
      dsimp only
      split
      · exact quiet_nextQuery host _ _ _
      · exact quiet_same rfl
    case h_3 tag gone rest removed additions _ =>
      obtain ⟨recorded, lingering, pending, locking⟩ := quiet_nextQuery
        (host.removeUsers tag (gone.filter done.contains)) rest (removed ∪ gone) additions
      exact ⟨recorded, lingering, pending, locking⟩
    case h_5 tag clients rest removed _ =>
      unfold Host.check
      dsimp only
      split
      · exact ⟨rfl, filter_subset_self _, rfl, id⟩
      · exact quiet_same rfl
    case h_7 removed phase => simp [Host.promotes, phase] at other
    all_goals exact quiet_same rfl

theorem quiet_watchAgain (idle : host.watch.pending = fun _ => []) :
    Quiet host host.watchAgain := by
  refine ⟨rfl, Subset.refl _, ?_, ?_⟩ <;> unfold Host.watchAgain <;> dsimp only <;> split
  · exact idle.symm
  · exact idle.symm
  · simp
  · simp

theorem watchStep_quiet {event : WatchEvent} (taken : host.watchStep event = some next)
    (other : event ≠ .measured ∧ event ≠ .processed) : Quiet host next := by
  cases event <;> unfold Host.watchStep at taken <;> dsimp only at taken
  case measured => exact absurd rfl other.1
  case processed => exact absurd rfl other.2
  case locked =>
    split at taken <;> cases taken
    rename_i phase
    split
    · exact ⟨rfl, Subset.refl _, by rw [phase.1]; rfl, by simp⟩
    · exact ⟨rfl, nil_subset _, by rw [phase.1]; rfl, by simp⟩
  case failed =>
    split at taken <;> cases taken <;> rename_i phase
    · exact quiet_watchAgain (by rw [phase]; rfl)
    · exact ⟨rfl, Subset.refl _, by rw [phase]; rfl, by simp⟩
  all_goals
    split at taken <;> cases taken <;> rename_i phase
    all_goals exact ⟨rfl, Subset.refl _, by rw [phase]; rfl, by simp⟩

theorem trailed_quiet {trails : List (Email × List Nat)} (trailed : Trailed ⟨host, trails⟩)
    (quiet : Quiet host next) : Trailed ⟨next, trails⟩ := by
  refine ⟨fun one member => ?_, fun one member => ?_, fun locking => ?_⟩
  · rw [quiet.recorded]
    exact trailed.unrecorded one (quiet.lingering member)
  · rw [quiet.pending]
    exact trailed.followed one (quiet.lingering member)
  · rw [quiet.recorded]
    exact trailed.found (quiet.locking locking)

variable {totals : List (Email × Nat)}

theorem moved_trail {one : Watched} {past : List Nat}
    (first : past.head? = one.baseline) (moved : one.moved totals = true) :
    movedPast (past ++ [totalOf totals one.email]) = true := by
  cases past with
  | nil => simp [Watched.moved, ← first] at moved
  | cons reading later =>
    rw [head?_cons] at first
    simp only [Watched.moved, ← first, Option.any_some, decide_eq_true_eq] at moved
    simp [movedPast, moved]

theorem trailed_processed (trailed : Trailed noted) (read : noted.host.watch = .read totals) :
    Trailed ⟨noted.host.process totals, noted.trails⟩ := by
  have trail := trailed.followed
  rw [read] at trail
  have seen : Trailed ⟨{ noted.host.observed totals with watch := .ended }, noted.trails⟩ := by
    refine ⟨fun one member => ?_, fun one member => ?_, by simp⟩ <;>
      obtain ⟨old, among, observed⟩ := mem_filterMap.mp member <;>
      obtain ⟨same, _, baseline⟩ := observe_spec observed
    · rw [same]
      exact trailed.unrecorded old among
    obtain ⟨past, listed, first⟩ := trail old among
    refine ⟨past ++ [totalOf totals old.email], ?_, ?_⟩
    · simpa [WatchPhase.pending, same] using listed
    · simp [head?_append, first, baseline]
  unfold Host.process
  split
  · rename_i some_
    obtain ⟨one, among, moved⟩ := any_eq_true.mp some_
    obtain ⟨past, listed, first⟩ := trail one among
    exact ⟨seen.unrecorded, seen.followed, fun _ =>
      ⟨_, listed, trailed.unrecorded one among, moved_trail first moved⟩⟩
  · have again : Quiet { noted.host.observed totals with watch := .ended }
        (noted.host.observed totals).watchAgain := quiet_watchAgain rfl
    exact trailed_quiet seen again

theorem mem_promote {removed : List Email} {one : Watched}
    (member : one ∈ (host.promote removed).lingering) :
    (one ∈ host.lingering ∧ one.email ∉ removed) ∨ (one.email ∈ removed ∧ one.baseline = none) := by
  unfold Host.promote Host.register at member
  split at member
  · rename_i nobody
    exact Or.inl ⟨member, by simp [nobody]⟩
  rcases mem_append.mp member with old | new
  · exact Or.inl (by simpa [Host.endApply] using mem_filter.mp old)
  · obtain ⟨email, among, rfl⟩ := mem_map.mp new
    exact Or.inr ⟨among, rfl⟩

theorem promote_quiet {host : Host} {removed : List Email} :
    (host.promote removed).watch.pending = host.watch.pending ∧
      ((host.promote removed).watch = .locking → host.watch = .locking) := by
  unfold Host.promote Host.register
  split
  · exact ⟨rfl, id⟩
  by_cases ended : host.watch = .ended
  · simp only [Host.endApply, ended, if_true]
    exact ⟨rfl, by simp⟩
  · simp [Host.endApply, ended]

theorem trailed_watch {event : WatchEvent} (trailed : Trailed noted)
    (stepped : noted.host.watchStep event = some next) :
    Trailed ⟨next, noted.follow (.watch event)⟩ := by
  cases event with
  | measured =>
    unfold Host.watchStep at stepped
    dsimp only at stepped
    split at stepped <;> cases stepped
    rename_i querying
    refine ⟨trailed.unrecorded, fun one member => ?_, by simp⟩
    obtain ⟨past, trail, first⟩ := trailed.followed one member
    rw [querying] at trail
    exact ⟨past, mem_map.mpr ⟨_, trail, by simp [WatchPhase.pending]⟩, first⟩
  | processed =>
    unfold Host.watchStep at stepped
    dsimp only at stepped
    split at stepped <;> cases stepped
    rename_i read
    exact trailed_processed trailed read
  | _ => exact trailed_quiet trailed (watchStep_quiet stepped ⟨by simp, by simp⟩)

theorem step_trailed {event : HostEvent} {next : Noted} (trailed : Trailed noted)
    (leaves : leavesWatched noted event) (taken : noted.step event = some next) :
    Trailed next := by
  obtain ⟨host, stepped, rfl⟩ := Option.map_eq_some_iff.mp taken
  cases event with
  | begin wanted live =>
    change noted.host.begin wanted live = some host at stepped
    unfold Host.begin at stepped
    split at stepped <;> cases stepped
    split
    · obtain ⟨recorded, lingering, pending, locking⟩ :=
        quiet_nextQuery { noted.host with file := wanted } wanted [] []
      exact trailed_quiet trailed ⟨recorded, lingering, pending, locking⟩
    · exact trailed_quiet trailed (quiet_same rfl)
  | apply outcome done =>
    cases promotes : noted.host.promotes (.apply outcome done) with
    | some removed =>
      have same : noted.host.promote removed = host := by
        unfold Host.promotes at promotes
        repeat' split at promotes
        all_goals cases promotes
        simp_all [Host.step, Host.applyStep, Host.onFailure]
      rw [← same]
      obtain ⟨apart, still, idle⟩ := leaves removed promotes
      obtain ⟨pending, locking⟩ := promote_quiet
      have recorded : (noted.host.promote removed).recorded = noted.host.file := by
        unfold Host.promote Host.register
        split <;> rfl
      have unwatched : ∀ one ∈ noted.host.lingering, one.email ∉ clientsOf noted.host.file :=
        fun one member served => (apart one.email served).1 (mem_map_of_mem member)
      unfold Noted.follow
      rw [promotes]
      refine ⟨fun one member => ?_, fun one member => ?_, fun waits => ?_⟩
      · rw [recorded]
        rcases mem_promote member with ⟨old, _⟩ | ⟨new, _⟩
        · exact unwatched one old
        · exact fun served => (apart one.email served).2 new
      · rw [pending]
        rcases mem_promote member with ⟨old, spared⟩ | ⟨new, first⟩
        · obtain ⟨past, listed, first⟩ := trailed.followed one old
          exact ⟨past, mem_append_left _ (mem_filter.mpr
            ⟨listed, by simp [unwatched one old, spared]⟩), first⟩
        · refine ⟨[], mem_append_right _ ?_, first.symm⟩
          rw [idle one.email new]
          exact mem_map_of_mem new
      · obtain ⟨trail, among, _, moved⟩ := trailed.found (locking waits)
        obtain ⟨unserved, spared⟩ := still (locking waits) trail among moved
        exact ⟨trail, mem_append_left _ (mem_filter.mpr
          ⟨among, by simp [unserved, spared]⟩), by rwa [recorded], moved⟩
    | none =>
      have quiet := trailed_quiet trailed (applyStep_quiet stepped promotes)
      simpa [Noted.follow, promotes] using quiet
  | watch event => exact trailed_watch trailed stepped
  | traffic | tick | restartedElsewhere =>
    cases stepped
    exact trailed_quiet trailed (quiet_same rfl)

end

theorem restarts_for_moved (events : List HostEvent) (start : Noted)
    (idle : start.host.lingering = [] ∧ start.host.watch = .ended)
    (meets : RunMeets Noted.step leavesWatched events start) :
    EachStep Noted.step RestartsForMoved events start := by
  have trailed : Trailed start := ⟨by simp [idle], by simp [idle], by simp [idle]⟩
  refine eachStep_of_invariant Trailed ?_ ?_ trailed meets
  · exact fun noted event next trailed leaves taken => step_trailed trailed leaves taken
  rintro noted _ next trailed - taken rfl -
  obtain ⟨host, stepped, -⟩ := Option.map_eq_some_iff.mp taken
  change (if _ then _ else none) = some host at stepped
  split at stepped <;> cases stepped
  rename_i locking
  exact trailed.found locking.1

def twoClients : Noted :=
  ⟨⟨[(1, 7), (1, 8)], [], [(1, [7, 8])], [(1, [7, 8])], none, [], .ended, 0, [], []⟩, []⟩

/-- The first client is removed through the API, and its counter is read. -/
def removedLive : List HostEvent :=
  [.begin [(1, [8])] true, .apply .succeeded [], .apply .succeeded [7], .apply .succeeded [],
    .apply .succeeded [], .watch .wake, .watch .measured, .watch .processed]

def foundMoving : List HostEvent :=
  [.traffic 7 5, .watch .wake, .watch .measured, .watch .processed]

theorem restarts_for_moved_removedLive :
    EachStep Noted.step RestartsForMoved (removedLive ++ foundMoving ++ [.watch .locked])
        twoClients ∧
      ∃ final, runEvents Noted.step (removedLive ++ foundMoving ++ [.watch .locked]) twoClients =
        some final ∧ final.host.watch = .restarting :=
  ⟨restarts_for_moved _ twoClients ⟨rfl, rfl⟩ (by decide +kernel),
    runEvents_exists Noted.step _ _ _ (by decide +kernel)⟩

/-- It is provisioned again by a restart before it has traffic. -/
theorem restarts_for_served :
    ¬ EachStep Noted.step RestartsForMoved
      ((removedLive ++ [.begin [(1, [7, 8])] false, .apply .succeeded [], .apply .succeeded []] ++
        foundMoving) ++ [.watch .locked]) twoClients :=
  not_eachStep Noted.step (by decide +kernel)

end Nebula.Agent.LiveClients
