import Nebula.Agent.LiveClients

/-!
# Removed clients stay under watch

A client that Xray dropped through its API is answered for until Xray is restarted, the client is
served again, or its counter has stood still for the watch window. Until then a running watch has
it, or restarts Xray for it, or the apply that removed it is still under way.
-/

namespace Nebula.Agent.LiveClients

open Schema Runs List
open Agent.XrayCall (Inbounds RunEnd)

variable (host : Host)

def Host.underWatch (email : Email) : Bool :=
  (decide (host.watch ≠ .ended) && (host.lingering.map Watched.email).contains email) ||
    decide (host.watch = .restarting) || host.held.contains email

def StaysWatched : Prop :=
  ∀ one ∈ host.owed, host.underWatch one.email = true
  deriving Decidable

/-- Until a removed client's watch or a restart, no command times out and a rollback can restart
Xray. -/
def Host.applyRestarts (outcome : RunEnd) (done : List Email) : Bool :=
  match outcome, host.apply with
  | .timedOut, some (.removing tag gone _ _ _) =>
    (host.removeUsers tag (gone.filter done.contains)).held.isEmpty
  | .timedOut, _ => host.held.isEmpty
  | .failed, some .rollingBack => host.held.isEmpty
  | _, _ => true

/-- No reading times out while there is someone to watch, and the restart for those who moved
succeeds. -/
def Host.watchLasts : WatchEvent → Bool
  | .timedOut => decide (host.watch = .querying) && host.lingering.isEmpty
  | .failed => decide (host.watch = .querying)
  | _ => true

def Host.lasts : HostEvent → Bool
  | .apply outcome done => host.applyRestarts outcome done
  | .watch event => host.watchLasts event
  | _ => true

def Matches (one : Watched) (entry : Watched) : Prop :=
  entry.email = one.email ∧ entry.baseline = one.baseline ∧ one.removedAt ≤ entry.removedAt

structure Answered : Prop where
  past : ∀ one ∈ host.owed, one.removedAt ≤ host.now
  unserved : ∀ one ∈ host.owed, host.serves one.email = false
  fresh : ∀ one ∈ host.owed, one.email ∈ host.held → one.baseline = none
  matched : ∀ one ∈ host.owed, one.email ∉ host.held →
    host.watch = .restarting ∨
      (host.watch ≠ .ended ∧ ∃ entry ∈ host.lingering, Matches one entry)

structure Handed (removed : List Email) : Prop where
  all : ∀ email ∈ host.held, email ∈ removed
  only : ∀ one ∈ host.owed, one.email ∈ removed → one.email ∈ host.held

def Knows : Option ApplyPhase → Prop
  | none | some .rollingBackHysteria => host.held = []
  | some .reloading | some .rollingBack => True
  | some (.removing _ gone _ removed _) =>
    Handed host removed ∧ ∀ one ∈ host.owed, one.email ∉ gone
  | some (.querying _ _ _ removed _) | some (.adding removed _)
  | some (.checking _ _ _ removed) | some (.applyingHysteria removed) => Handed host removed

structure Kept : Prop where
  answered : Answered host
  knows : Knows host host.apply

theorem kept_staysWatched (kept : Kept host) : StaysWatched host := by
  intro one member
  unfold Host.underWatch
  by_cases held : one.email ∈ host.held
  · simp [held]
  rcases kept.answered.matched one member held with restarting | ⟨runs, entry, listed, same, _⟩
  · simp [restarting]
  · have named : (host.lingering.map Watched.email).contains one.email = true :=
      contains_iff_mem.mpr (mem_map.mpr ⟨entry, listed, same⟩)
    simp only [named, decide_eq_true runs, Bool.and_self, Bool.true_or]

section

variable {host : Host}

theorem answered_nil (none_ : host.owed = []) : Answered host := by
  refine ⟨?_, ?_, ?_, ?_⟩ <;> simp [none_]

theorem handed_nil (nothing : host.held = []) : Handed host [] :=
  ⟨by simp [nothing], by simp⟩

theorem knows_of_nil (nothing : host.held = []) (none_ : host.owed = [])
    (phase : Option ApplyPhase) : Knows host phase := by
  have handed : ∀ removed, Handed host removed := fun removed =>
    ⟨by simp [nothing], by simp [none_]⟩
  unfold Knows
  split
  · exact nothing
  · exact nothing
  · trivial
  · trivial
  · exact ⟨handed _, by simp [none_]⟩
  all_goals exact handed _

variable (answered : Answered host)
include answered

theorem answered_apply (apply : Option ApplyPhase) (file recorded : Inbounds) :
    Answered { host with apply := apply, file := file, recorded := recorded } :=
  ⟨answered.past, answered.unserved, answered.fresh, answered.matched⟩

variable (host)

theorem kept_endApply (nothing : host.held = []) : Kept host.endApply := by
  refine ⟨⟨answered.past, answered.unserved, ?_, ?_⟩, rfl⟩
  · intro one _ held
    cases held
  · intro one member _
    exact answered.matched one member (by simp [nothing])

theorem kept_fallBack : Kept host.fallBack :=
  ⟨answered_apply answered (some .reloading) host.file host.recorded, trivial⟩

theorem kept_rollback : Kept host.rollback :=
  ⟨answered_apply answered (some .rollingBack) host.recorded host.recorded, trivial⟩

theorem kept_nextCheck {todo : Inbounds} {removed : List Email} (handed : Handed host removed) :
    Kept (host.nextCheck todo removed) := by
  refine ⟨answered_apply answered _ host.file host.recorded, ?_⟩
  cases todo with
  | nil | cons => exact ⟨handed.all, handed.only⟩

variable {host}

theorem kept_nextQuery {todo : Inbounds} {removed : List Email}
    {additions : List (ProfileCode × Email)} (handed : Handed host removed) :
    Kept (host.nextQuery todo removed additions) := by
  unfold Host.nextQuery
  split
  · exact ⟨answered_apply answered _ host.file host.recorded, handed.all, handed.only⟩
  · split
    · exact kept_nextCheck host answered handed
    · exact ⟨answered_apply answered _ host.file host.recorded, handed.all, handed.only⟩

theorem kept_onFailure {outcome : RunEnd} {succeeded failed : Host} (good : Kept succeeded)
    (bad : outcome = .failed → Kept failed) (killed : outcome = .timedOut → host.held = []) :
    Kept (host.onFailure outcome succeeded failed) := by
  cases outcome with
  | succeeded => exact good
  | failed => exact bad rfl
  | timedOut => exact kept_endApply host answered (killed rfl)

end

/-! ## The commands of a live update -/

section

variable {host : Host}

variable (answered : Answered host)
include answered

variable (tag : ProfileCode)

theorem not_usersOf {one : Watched} (member : one ∈ host.owed) : one.email ∉ host.usersOf tag := by
  intro listed
  obtain ⟨user, among, named⟩ := mem_map.mp listed
  have served : host.serves one.email = true :=
    any_eq_true.mpr ⟨user, (mem_filter.mp among).1, by simp [named]⟩
  rw [answered.unserved one member] at served
  cases served

variable {removed : List Email}

theorem kept_compare {clients : List Email} {rest : Inbounds}
    {additions : List (ProfileCode × Email)} (handed : Handed host removed) :
    Kept (host.compare tag clients rest removed additions) := by
  unfold Host.compare
  dsimp only
  split
  · exact kept_nextQuery answered handed
  · refine ⟨answered_apply answered _ host.file host.recorded, ⟨handed.all, handed.only⟩, ?_⟩
    intro one member listed
    exact not_usersOf answered tag member (mem_filter.mp listed).1

theorem kept_check {clients : List Email} {rest : Inbounds}
    (handed : Handed host removed) :
    Kept (host.check tag clients rest removed) := by
  unfold Host.check
  dsimp only
  split
  swap
  · exact kept_fallBack host answered
  rename_i same
  refine kept_nextCheck (host.pop clients)
    ⟨answered.past, answered.unserved, answered.fresh, ?_⟩
    ⟨handed.all, handed.only⟩
  intro one member free
  rcases answered.matched one member free with restarting | ⟨runs, entry, listed, fits⟩
  · exact Or.inl restarting
  -- Whoever is popped is served, and whoever is served is not answered for.
  refine Or.inr ⟨runs, entry, mem_filter.mpr ⟨listed, ?_⟩, fits⟩
  rw [fits.1, Bool.not_eq_true', ← Bool.not_eq_true]
  intro client
  have all : ∀ email ∈ clients, (host.usersOf tag).contains email = true :=
    all_eq_true.mp (Bool.and_eq_true_iff.mp same).2
  have listed := all one.email (contains_iff_mem.mp client)
  exact not_usersOf answered tag member (contains_iff_mem.mp listed)

theorem answered_addUsers (added : List (ProfileCode × Email)) :
    Answered (host.addUsers added) := by
  have old : ∀ one ∈ (host.addUsers added).owed, one ∈ host.owed ∧
      (added.any fun user => user.2 == one.email) = false := by
    intro one member
    obtain ⟨before, absent⟩ := mem_filter.mp member
    exact ⟨before, by simpa using absent⟩
  refine ⟨?_, ?_, ?_, ?_⟩
  · intro one member
    exact answered.past one (old one member).1
  · intro one member
    have before := answered.unserved one (old one member).1
    simp only [Host.serves, Host.addUsers, any_append, (old one member).2, Bool.or_false]
    exact before
  · intro one member
    exact answered.fresh one (old one member).1
  · intro one member
    exact answered.matched one (old one member).1

omit answered in
theorem handed_addUsers (added : List (ProfileCode × Email))
    (handed : Handed host removed) : Handed (host.addUsers added) removed :=
  ⟨handed.all, fun one member => handed.only one (mem_filter.mp member).1⟩

omit answered in
theorem mem_removeUsers {tag : ProfileCode} {emails : List Email} {one : Watched}
    (member : one ∈ (host.removeUsers tag emails).owed) :
    (one ∈ host.owed ∧ one.email ∉ host.lost tag emails) ∨
      (one.email ∈ host.lost tag emails ∧ one = ⟨one.email, host.now, none⟩) := by
  rcases mem_append.mp member with old | new
  · obtain ⟨before, other⟩ := mem_filter.mp old
    exact Or.inl ⟨before, by simpa using other⟩
  · obtain ⟨email, lost, rfl⟩ := mem_map.mp new
    exact Or.inr ⟨lost, rfl⟩

theorem answered_removeUsers (emails : List Email) : Answered (host.removeUsers tag emails) := by
  refine ⟨?_, ?_, ?_, ?_⟩
  · intro one member
    rcases mem_removeUsers member with ⟨before, _⟩ | ⟨_, same⟩
    · exact answered.past one before
    · rw [same]
      exact Nat.le_refl _
  · intro one member
    rcases mem_removeUsers member with ⟨before, _⟩ | ⟨lost, _⟩
    · have unserved := answered.unserved one before
      simp only [Host.serves, any_eq_false] at unserved ⊢
      intro user left
      exact unserved user (mem_filter.mp left).1
    · have gone := (mem_filter.mp lost).2
      rw [Bool.and_eq_true, Bool.not_eq_true'] at gone
      exact gone.2
  · intro one member held
    rcases mem_removeUsers member with ⟨before, other⟩ | ⟨_, same⟩
    · rcases mem_append.mp held with old | new
      · exact answered.fresh one before old
      · exact absurd new other
    · rw [same]
  · intro one member free
    rcases mem_removeUsers member with ⟨before, _⟩ | ⟨lost, _⟩
    · exact answered.matched one before fun held => free (mem_append.mpr (Or.inl held))
    · exact absurd (mem_append.mpr (Or.inr lost)) free

omit answered in
theorem handed_removeUsers {gone done : List Email}
    (handed : Handed host removed) (others : ∀ one ∈ host.owed, one.email ∉ gone) :
    Handed (host.removeUsers tag (gone.filter done.contains)) (removed ∪ gone) := by
  have lost_gone : ∀ email ∈ host.lost tag (gone.filter done.contains), email ∈ gone :=
    fun email lost => (mem_filter.mp (mem_filter.mp lost).1).1
  constructor
  · intro email held
    rcases mem_append.mp held with old | new
    · exact mem_union_iff.mpr (Or.inl (handed.all email old))
    · exact mem_union_iff.mpr (Or.inr (lost_gone email new))
  · intro one member listed
    rcases mem_removeUsers member with ⟨before, _⟩ | ⟨lost, _⟩
    · rcases mem_union_iff.mp listed with old | new
      · exact mem_append.mpr (Or.inl (handed.only one before old))
      · exact absurd new (others one before)
    · exact mem_append.mpr (Or.inr lost)

theorem kept_promote (handed : Handed host removed) :
    Kept (host.promote removed) := by
  unfold Host.promote Host.register
  split
  · rename_i nobody
    have nothing : host.held = [] := by
      rw [eq_nil_iff_forall_not_mem]
      intro email held
      have listed := handed.all email held
      rw [nobody] at listed
      cases listed
    exact kept_endApply { host with recorded := host.file }
      ⟨answered.past, answered.unserved, answered.fresh, answered.matched⟩ nothing
  · refine ⟨⟨answered.past, answered.unserved, ?_, ?_⟩, rfl⟩
    · intro one _ held
      cases held
    intro one member _
    by_cases own : one.email ∈ removed
    · refine Or.inr ⟨?_, ⟨one.email, host.now, none⟩, ?_, rfl, ?_, answered.past one member⟩
      · change (if host.watch = .ended then WatchPhase.sleeping else host.watch) ≠ .ended
        split
        · simp
        · assumption
      · exact mem_append.mpr (Or.inr (mem_map.mpr ⟨one.email, own, rfl⟩))
      · exact (answered.fresh one member (handed.only one member own)).symm
    · have free : one.email ∉ host.held := fun held => own (handed.all one.email held)
      rcases answered.matched one member free with restarting | ⟨runs, entry, listed, fits⟩
      · refine Or.inl ?_
        change (if host.watch = .ended then WatchPhase.sleeping else host.watch) = .restarting
        simp [restarting]
      refine Or.inr ⟨?_, entry, ?_, fits⟩
      · change (if host.watch = .ended then WatchPhase.sleeping else host.watch) ≠ .ended
        rw [if_neg runs]
        exact runs
      · refine mem_append.mpr (Or.inl (mem_filter.mpr ⟨listed, ?_⟩))
        rw [fits.1]
        simpa using own

end

/-! ## Every step of an apply -/

variable {next : Host}

theorem applyStep_kept {host : Host} {outcome : RunEnd} {done : List Email} (kept : Kept host)
    (restarts : host.applyRestarts outcome done = true)
    (taken : host.applyStep outcome done = some next) : Kept next := by
  obtain ⟨answered, knows⟩ := kept
  unfold Host.applyStep at taken
  unfold Host.applyRestarts at restarts
  cases phase : host.apply with
  | none =>
    rw [phase] at taken
    cases taken
  | some apply =>
    rw [phase] at taken knows restarts
    cases apply with
    | querying tag clients rest removed additions =>
      cases taken
      refine kept_onFailure answered
        (kept_compare answered tag knows)
        (fun _ => kept_fallBack host answered) ?_
      rintro rfl
      simpa using restarts
    | removing tag gone rest removed additions =>
      cases taken
      have after := answered_removeUsers answered tag (gone.filter done.contains)
      refine kept_onFailure after ?_ (fun _ => kept_fallBack _ after) ?_
      · exact kept_nextQuery after (handed_removeUsers tag knows.1 knows.2)
      · rintro rfl
        simpa using restarts
    | adding removed additions =>
      cases taken
      have after := answered_addUsers answered (additions.filter fun user => done.contains user.2)
      refine kept_onFailure after ?_ (fun _ => kept_fallBack _ after) ?_
      · exact kept_nextCheck _ after (handed_addUsers _ knows)
      · rintro rfl
        have nothing : host.held = [] := by simpa using restarts
        exact nothing
    | checking tag clients rest removed =>
      cases taken
      refine kept_onFailure answered
        (kept_check answered tag knows)
        (fun _ => kept_fallBack host answered) ?_
      rintro rfl
      simpa using restarts
    | reloading =>
      cases taken
      refine kept_onFailure answered ⟨answered_nil rfl, handed_nil rfl⟩
        (fun _ => kept_rollback host answered) ?_
      rintro rfl
      simpa using restarts
    | applyingHysteria removed =>
      cases taken
      refine kept_onFailure answered
        (kept_promote answered knows) (fun _ => kept_rollback host answered) ?_
      rintro rfl
      simpa using restarts
    | rollingBack =>
      cases taken
      refine kept_onFailure answered ⟨answered_nil rfl, rfl⟩ ?_ ?_
      · rintro rfl
        exact kept_endApply host answered (by simpa using restarts)
      · rintro rfl
        simpa using restarts
    | rollingBackHysteria =>
      cases taken
      exact kept_endApply host answered knows

/-! ## Every step of the watch -/

section

variable {host : Host}

theorem knows_of_fewer (host : Host) (after : Host) (held : after.held = host.held)
    (apply : after.apply = host.apply)
    (fewer : ∀ one ∈ after.owed, ∃ before ∈ host.owed, before.email = one.email)
    (knows : Knows host host.apply) : Knows after after.apply := by
  have handed : ∀ removed, Handed host removed → Handed after removed := by
    intro removed before
    refine ⟨by rw [held]; exact before.all, ?_⟩
    intro one member listed
    obtain ⟨old, oldMember, named⟩ := fewer one member
    rw [← named] at listed ⊢
    rw [held]
    exact before.only old oldMember listed
  rw [apply]
  unfold Knows at knows ⊢
  split at knows
  · exact held.trans knows
  · exact held.trans knows
  · trivial
  · trivial
  · refine ⟨handed _ knows.1, ?_⟩
    intro one member
    obtain ⟨old, oldMember, named⟩ := fewer one member
    rw [← named]
    exact knows.2 old oldMember
  all_goals exact handed _ knows

theorem answered_ended (kept : Kept host) (awake : host.watch ≠ .restarting)
    (empty : host.lingering = []) (watch : WatchPhase) : Answered { host with watch := watch } := by
  refine ⟨kept.answered.past, kept.answered.unserved, kept.answered.fresh, ?_⟩
  intro one member free
  rcases kept.answered.matched one member free with restarting | ⟨_, entry, listed, _⟩
  · exact absurd restarting awake
  · rw [empty] at listed
    cases listed

theorem answered_running (kept : Kept host) (awake : host.watch ≠ .restarting) {watch : WatchPhase}
    (runs : watch ≠ .ended) : Answered { host with watch := watch } := by
  refine ⟨kept.answered.past, kept.answered.unserved, kept.answered.fresh, ?_⟩
  intro one member free
  rcases kept.answered.matched one member free with restarting | ⟨_, found⟩
  · exact absurd restarting awake
  · exact Or.inr ⟨runs, found⟩

theorem kept_watchAgain (kept : Kept host) (awake : host.watch ≠ .restarting) :
    Kept host.watchAgain := by
  unfold Host.watchAgain
  refine ⟨?_, knows_of_fewer host _ rfl rfl (fun one member => ⟨one, member, rfl⟩) kept.knows⟩
  by_cases empty : host.lingering = []
  · exact answered_ended kept awake empty _
  · rw [if_neg empty]
    exact answered_running kept awake (by simp)

variable {totals : List (Email × Nat)}

theorem observe_matches {now : Nat} {one after entry : Watched}
    (fits : Matches one entry) (observed : one.observe now totals = some after) :
    ∃ kept, entry.observe now totals = some kept ∧ Matches after kept := by
  obtain ⟨email, baseline, later⟩ := fits
  unfold Watched.observe at observed ⊢
  rw [email, baseline]
  cases first : one.baseline with
  | none =>
    rw [first] at observed
    cases observed
    exact ⟨_, rfl, rfl, rfl, later⟩
  | some value =>
    rw [first] at observed
    have same : Matches one entry := ⟨email, baseline, later⟩
    by_cases moved : value < totalOf totals one.email
    · simp only [moved, if_true] at observed ⊢
      cases observed
      exact ⟨entry, rfl, same⟩
    simp only [moved, if_false] at observed ⊢
    by_cases expired : one.removedAt + lingerWatchSeconds ≤ now
    · simp only [expired, if_true] at observed
      cases observed
    simp only [expired, if_false] at observed
    cases observed
    have open_ : ¬entry.removedAt + lingerWatchSeconds ≤ now := fun past =>
      expired (Nat.le_trans (Nat.add_le_add_right later _) past)
    exact ⟨entry, if_neg open_, same⟩

theorem mem_observed {one : Watched} (member : one ∈ (host.observed totals).owed) :
    ∃ before ∈ host.owed, before.email = one.email ∧ before.removedAt = one.removedAt ∧
      ((before.email ∈ host.held ∧ before = one) ∨
        (before.email ∉ host.held ∧ before.observe host.now totals = some one)) := by
  obtain ⟨before, listed, observed⟩ := mem_filterMap.mp member
  by_cases held : before.email ∈ host.held
  · simp only [held, if_true, Option.some.injEq] at observed
    exact ⟨before, listed, by rw [observed], by rw [observed], Or.inl ⟨held, observed⟩⟩
  · simp only [held, if_false] at observed
    obtain ⟨email, removedAt, _⟩ := observe_spec observed
    exact ⟨before, listed, email.symm, removedAt.symm, Or.inr ⟨held, observed⟩⟩

theorem kept_observed (totals : List (Email × Nat)) (kept : Kept host)
    (reading : host.watch = .read totals) : Kept (host.observed totals) := by
  refine ⟨⟨?_, ?_, ?_, ?_⟩, knows_of_fewer host _ rfl rfl ?_ kept.knows⟩
  · intro one member
    obtain ⟨before, listed, _, removedAt, _⟩ := mem_observed member
    rw [← removedAt]
    exact kept.answered.past before listed
  · intro one member
    obtain ⟨before, listed, email, _⟩ := mem_observed member
    rw [← email]
    exact kept.answered.unserved before listed
  · intro one member held
    obtain ⟨before, listed, email, _, ⟨_, same⟩ | ⟨free, _⟩⟩ := mem_observed member
    · rw [← same] at held ⊢
      exact kept.answered.fresh before listed held
    · rw [← email] at held
      exact absurd held free
  · intro one member unheld
    obtain ⟨before, listed, email, _, ⟨held, _⟩ | ⟨free, observed⟩⟩ := mem_observed member
    · rw [email] at held
      exact absurd held unheld
    rcases kept.answered.matched before listed free with restarting | ⟨runs, entry, found, fits⟩
    · rw [reading] at restarting
      cases restarting
    · obtain ⟨after, stays, still⟩ := observe_matches fits observed
      exact Or.inr ⟨runs, after, mem_filterMap.mpr ⟨entry, found, stays⟩, still⟩
  · intro one member
    obtain ⟨before, listed, email, _⟩ := mem_observed member
    exact ⟨before, listed, email⟩

theorem watchStep_kept {event : WatchEvent} (kept : Kept host)
    (lasts : host.watchLasts event = true) (taken : host.watchStep event = some next) :
    Kept next := by
  have same : ∀ watch, Knows { host with watch := watch } host.apply := fun watch =>
    knows_of_fewer host { host with watch := watch } rfl rfl (fun one member => ⟨one, member, rfl⟩)
      kept.knows
  cases event with
  | wake =>
    simp only [Host.watchStep, Option.ite_none_right_eq_some] at taken
    obtain ⟨sleeping, same_⟩ := taken
    cases same_
    exact ⟨answered_running kept (by simp [sleeping]) (by simp), same _⟩
  | measured =>
    simp only [Host.watchStep, Option.ite_none_right_eq_some] at taken
    obtain ⟨querying, same_⟩ := taken
    cases same_
    exact ⟨answered_running kept (by simp [querying]) (by simp), same _⟩
  | failed =>
    have querying : host.watch = .querying := by simpa [Host.watchLasts] using lasts
    simp only [Host.watchStep, querying, Option.some.injEq] at taken
    subst taken
    exact kept_watchAgain kept (by simp [querying])
  | timedOut =>
    obtain ⟨querying, empty⟩ : host.watch = .querying ∧ host.lingering = [] := by
      simpa [Host.watchLasts] using lasts
    simp only [Host.watchStep, querying, Option.some.injEq] at taken
    subst taken
    exact ⟨answered_ended kept (by simp [querying]) empty _, same _⟩
  | processed =>
    unfold Host.watchStep at taken
    dsimp only at taken
    split at taken
    swap
    · cases taken
    rename_i totals reading
    cases taken
    have after := kept_observed totals kept reading
    have awake : (host.observed totals).watch ≠ .restarting := by simp [Host.observed, reading]
    unfold Host.process
    split
    · refine ⟨answered_running after awake (by simp), ?_⟩
      exact knows_of_fewer (host.observed totals) _ rfl rfl
        (fun one member => ⟨one, member, rfl⟩) after.knows
    · exact kept_watchAgain after awake
  | locked =>
    simp only [Host.watchStep, Option.ite_none_right_eq_some] at taken
    obtain ⟨⟨locking, free⟩, same_⟩ := taken
    cases same_
    split
    · rename_i empty
      exact ⟨answered_ended kept (by simp [locking]) empty _, same _⟩
    -- The map is cleared first; the restart now answers for everyone.
    refine ⟨⟨kept.answered.past, kept.answered.unserved, kept.answered.fresh, ?_⟩, ?_⟩
    · intro one _ _
      exact Or.inl rfl
    · exact knows_of_fewer host _ rfl rfl (fun one member => ⟨one, member, rfl⟩) kept.knows
  | restarted =>
    simp only [Host.watchStep, Option.ite_none_right_eq_some] at taken
    obtain ⟨_, same_⟩ := taken
    cases same_
    exact ⟨answered_nil rfl, knows_of_nil rfl rfl _⟩

end

theorem begin_kept {host : Host} {wanted : Inbounds} {live : Bool} (kept : Kept host)
    (taken : host.begin wanted live = some next) : Kept next := by
  obtain ⟨free, taken⟩ := Option.ite_none_right_eq_some.mp taken
  have nothing : host.held = [] := by
    have knows := kept.knows
    rw [free.1] at knows
    exact knows
  cases taken
  have written := answered_apply kept.answered host.apply wanted host.recorded
  cases live with
  | true => exact kept_nextQuery written (handed_nil nothing)
  | false => exact kept_fallBack _ written

/-- While `applyRestarts` and `watchLasts`, every removed client stays under watch. -/
theorem removed_clients_watched (events : List HostEvent) (start : Host)
    (nothingOwed : start.owed = []) (nothingHeld : start.held = [])
    (meets : RunMeets Host.step (fun host event => host.lasts event = true) events start) :
    AlwaysAlong Host.step StaysWatched events start := by
  refine alwaysAlong_of_invariant Kept StaysWatched ?_ kept_staysWatched
    ⟨answered_nil nothingOwed, knows_of_nil nothingHeld nothingOwed _⟩ meets
  intro host event next kept lasts taken
  cases event with
  | begin wanted live => exact begin_kept kept taken
  | apply outcome done => exact applyStep_kept kept lasts taken
  | watch event => exact watchStep_kept kept lasts taken
  | traffic email bytes =>
    cases taken
    refine ⟨⟨kept.answered.past, kept.answered.unserved, kept.answered.fresh,
      kept.answered.matched⟩, ?_⟩
    exact knows_of_fewer host _ rfl rfl (fun one member => ⟨one, member, rfl⟩) kept.knows
  | tick seconds =>
    cases taken
    refine ⟨⟨?_, kept.answered.unserved, kept.answered.fresh, kept.answered.matched⟩, ?_⟩
    · intro one member
      exact Nat.le_trans (kept.answered.past one member) (Nat.le_add_right _ _)
    · exact knows_of_fewer host _ rfl rfl (fun one member => ⟨one, member, rfl⟩) kept.knows
  | restartedElsewhere =>
    cases taken
    exact ⟨answered_nil rfl, knows_of_nil rfl rfl _⟩

def downloading : Host where
  users := [(1, 7)]
  counters := [(7, 100)]
  file := [(1, [7])]
  recorded := [(1, [7])]
  apply := none
  lingering := []
  watch := .ended
  now := 0
  owed := []
  held := []

def revoked : List HostEvent :=
  [.begin [(1, [])] true, .apply .succeeded [], .apply .succeeded [7], .apply .succeeded [],
    .apply .succeeded []]

def stillMoving : List HostEvent :=
  revoked ++
    [.watch .wake, .watch .measured, .watch .processed, .traffic 7 50, .watch .wake,
      .watch .measured, .watch .processed, .watch .locked, .watch .restarted]

def readingKilled : List HostEvent :=
  revoked ++ [.watch .wake, .watch .timedOut, .traffic 7 50]

theorem removed_clients_watched_stillMoving :
    AlwaysAlong Host.step StaysWatched stillMoving downloading ∧
      (∃ middle, runEvents Host.step revoked downloading = some middle ∧
        middle.owed.map Watched.email = [7]) ∧
      ∃ final, runEvents Host.step stillMoving downloading = some final ∧ final.owed = [] :=
  ⟨removed_clients_watched stillMoving downloading rfl rfl (by decide +kernel),
    runEvents_exists Host.step _ _ _ (by decide +kernel),
    runEvents_exists Host.step _ _ _ (by decide +kernel)⟩

theorem removed_client_unwatched_readingKilled :
    ¬AlwaysAlong Host.step StaysWatched readingKilled downloading :=
  not_alwaysAlong StaysWatched _ _ (by decide +kernel)

end Nebula.Agent.LiveClients
