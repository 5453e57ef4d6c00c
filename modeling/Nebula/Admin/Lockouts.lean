import Nebula.Admin.Passwords

/-!
# What a lockout holds back

The password step looks at the lockout under the row's lock, the step-up before it has the lock, and
the second step of a sign-in not at all. A failure that locks while nobody is between the two steps
keeps sessions from being issued until the lock expires.
-/

namespace Nebula.SignIn

open Store Schema Work Runs Option

def failuresSince (key : AccountKey) : List (AccountKey × Outcome) → Nat
  | [] => 0
  | (other, outcome) :: older =>
    if other = key then
      match outcome with
      | .failed => failuresSince key older + 1
      | .locked => 0
      | .succeeded => 0
    else failuresSince key older

/-- Exactly the failure that reaches the threshold locks the account. -/
def LocksExact (threshold : Nat) : List (AccountKey × Outcome) → Prop
  | [] => True
  | (key, outcome) :: older =>
    (outcome ≠ .succeeded → (outcome = .locked ↔ failuresSince key older + 1 = threshold)) ∧
      LocksExact threshold older

instance decidableLocksExact (threshold : Nat) :
    ∀ outcomes, Decidable (LocksExact threshold outcomes)
  | [] => isTrue trivial
  | (_, _) :: older =>
    have := decidableLocksExact threshold older
    inferInstanceAs (Decidable (_ ∧ _))

variable (settings : Settings)

def LockoutHolds (state : State) : Prop :=
  (∀ issue ∈ state.issued, issue.locked = false) ∧
    LocksExact settings.lockoutThreshold state.outcomes
  deriving Decidable

def State.lastTry (state : State) (key : AccountKey) : Bool :=
  !state.locked key && decide (settings.lockoutThreshold ≤ state.failures key + 1)

def State.Alone (state : State) (number : Nat) (adminId : Uuid) : Prop :=
  (∀ challenge ∈ state.preauths, state.now < challenge.expiresAt → challenge.adminId ≠ adminId) ∧
    ∀ job ∈ state.jobs.jobs, job.1 ≠ number → job.2.signsIn ≠ some adminId
  deriving Decidable

def State.locks (state : State) (number : Nat) : Option Uuid :=
  match (state.jobs.find number).bind state.verdict with
  | some (.denied (.admin adminId)) =>
    if state.lastTry settings (.admin adminId) then some adminId else none
  | _ => none

/-- A failure locks only while it is alone, and no counter below the threshold expires. -/
def LocksAlone (state : State) : Event → Prop
  | .judge number => ∀ adminId ∈ state.locks settings number, state.Alone number adminId
  | .tick later => ∀ entry ∈ state.lockouts, entry.lockedUntil = 0 →
      state.now < entry.expiresAt → later < entry.expiresAt
  | _ => True

instance (state : State) (event : Event) :
    Decidable (LocksAlone settings state event) := by
  unfold LocksAlone
  split <;> infer_instance

def HeldOnce (pool : Pool Job) : Prop :=
  ∀ first ∈ pool.jobs, ∀ second ∈ pool.jobs, ∀ adminId, first.2.holds = some adminId →
    second.2.holds = some adminId → first.1 = second.1

section

variable {pool : Pool Job}

theorem HeldOnce.begin (once : HeldOnce pool) (job : Job) (free : job.holds = none) :
    HeldOnce (pool.begin job) :=
  Pool.heldApart_begin (fun own adminId => Job.holds own = some adminId) once fun _ held => by
    cases free.symm.trans held

theorem HeldOnce.resume (once : HeldOnce pool) (number : Nat) (next : Option Job)
    (apart : ∀ job ∈ next, ∀ adminId ∈ job.holds, ∀ other ∈ pool.jobs, other.1 ≠ number →
      other.2.holds ≠ some adminId) : HeldOnce (pool.resume number next) :=
  Pool.heldApart_resume (fun own adminId => Job.holds own = some adminId) once next apart

theorem HeldOnce.goOn (once : HeldOnce pool) (number : Nat) (job : Job) (next : Option Job)
    (found : pool.find number = some job)
    (same : ∀ later ∈ next, ∀ adminId ∈ later.holds, job.holds = some adminId) :
    HeldOnce (pool.resume number next) := by
  refine once.resume number next ?_
  intro later among adminId held other member different holds
  exact different (once other member (number, job) (pool.find_mem number job found) adminId holds
    (same later among adminId held))

end

section

variable (settings : Settings) (state : State)

def Counted (key : AccountKey) : Prop :=
  failuresSince key state.outcomes < settings.lockoutThreshold ∧
    match state.lockout key with
    | none => failuresSince key state.outcomes = 0
    | some entry =>
      (entry.lockedUntil = 0 ∧ entry.failures = failuresSince key state.outcomes) ∨
        (entry.lockedUntil = entry.expiresAt ∧ failuresSince key state.outcomes = 0)

theorem lockout_some (key : AccountKey) (entry : Lockout) :
    state.lockout key = some entry ↔
      lookup Lockout.key key state.lockouts = some entry ∧ state.now < entry.expiresAt := by
  simp [State.lockout, filter_eq_some_iff]

variable {key : AccountKey}

theorem Counted.failures (counted : Counted settings state key)
    (unlocked : state.locked key = false) :
    state.failures key = failuresSince key state.outcomes := by
  obtain ⟨_, counter⟩ := counted
  unfold State.failures
  cases found : state.lockout key with
  | none =>
    rw [found] at counter
    exact counter.symm
  | some entry =>
    rw [found] at counter
    rcases counter with ⟨_, same⟩ | ⟨ends, _⟩
    · exact same
    · have live := ((lockout_some state key entry).mp found).2
      simp [State.locked, found, ends, live] at unlocked

theorem lockout_remove (gone key : AccountKey) :
    { state with lockouts := remove Lockout.key gone state.lockouts }.lockout key =
      if gone = key then none else state.lockout key := by
  simp only [State.lockout, lookup_remove]
  split <;> rfl

variable {settings state}

theorem Counted.of_same {after : State} (counted : Counted settings state key)
    (lockout : after.lockout key = state.lockout key)
    (failures : failuresSince key after.outcomes = failuresSince key state.outcomes) :
    Counted settings after key := by
  unfold Counted at *
  rw [lockout, failures]
  exact counted

theorem Counted.of_none {after : State} (none : after.lockout key = none)
    (failures : failuresSince key after.outcomes = 0) : Counted settings after key := by
  unfold Counted
  rw [none, failures]
  exact ⟨settings.threshold_pos, rfl⟩

variable {key other : AccountKey}

theorem failuresSince_other (different : other ≠ key) {outcome : Outcome}
    {older : List (AccountKey × Outcome)} :
    failuresSince key ((other, outcome) :: older) = failuresSince key older := by
  cases outcome <;> simp [failuresSince, different]

theorem lockoutStatus_counted (key other : AccountKey)
    (counted : ∀ key, Counted settings state key) :
    Counted settings (state.lockoutStatus key) other ∧
      (state.lockoutStatus key).locked other = state.locked other := by
  unfold State.lockoutStatus
  split
  · exact ⟨counted other, rfl⟩
  rename_i entry found
  split
  · exact ⟨counted other, rfl⟩
  rename_i unlocked
  split
  swap
  · exact ⟨counted other, rfl⟩
  rename_i ended
  have lockout := lockout_remove state key other
  by_cases same : key = other
  swap
  · rw [if_neg same] at lockout
    exact ⟨(counted other).of_same lockout rfl, by simp [State.locked, lockout]⟩
  subst same
  rw [if_pos rfl] at lockout
  have counter := (counted key).2
  rw [found] at counter
  refine ⟨.of_none lockout ?_, ?_⟩
  · rcases counter with ⟨zero, _⟩ | ⟨_, none⟩
    · exact absurd ended (by omega)
    · exact none
  · simp [State.locked, lockout, found, unlocked]

theorem lockoutStatus_rest (key : AccountKey) :
    (state.lockoutStatus key).now = state.now ∧ (state.lockoutStatus key).jobs = state.jobs ∧
      (state.lockoutStatus key).preauths = state.preauths ∧
      (state.lockoutStatus key).issued = state.issued ∧
      (state.lockoutStatus key).outcomes = state.outcomes := by
  unfold State.lockoutStatus
  split
  · simp
  · split
    · simp
    · split <;> simp

theorem clearFailures_counted (key other : AccountKey)
    (counted : ∀ key, Counted settings state key) :
    Counted settings (state.clearFailures key) other ∧
      ((state.clearFailures key).locked other = true → state.locked other = true) := by
  have lockout : (state.clearFailures key).lockout other =
      if key = other then none else state.lockout other := lockout_remove state key other
  by_cases same : key = other
  · subst same
    rw [if_pos rfl] at lockout
    refine ⟨.of_none lockout (by simp [State.clearFailures, failuresSince]), ?_⟩
    simp [State.locked, lockout]
  · rw [if_neg same] at lockout
    refine ⟨(counted other).of_same lockout (failuresSince_other same), ?_⟩
    simp only [State.locked, lockout]
    exact id

theorem tick_counted {later : Nat} {key : AccountKey} (order : state.now ≤ later)
    (kept : ∀ entry ∈ state.lockouts, entry.lockedUntil = 0 → state.now < entry.expiresAt →
      later < entry.expiresAt) (counted : Counted settings state key) :
    Counted settings { state with now := later } key ∧
      ({ state with now := later }.locked key = true → state.locked key = true) := by
  have older : ∀ entry, { state with now := later }.lockout key = some entry →
      state.lockout key = some entry := by
    intro entry found
    obtain ⟨at_, live⟩ := (lockout_some _ key entry).mp found
    exact (lockout_some state key entry).mpr ⟨at_, Nat.lt_of_le_of_lt order live⟩
  constructor
  · cases found : { state with now := later }.lockout key with
    | some entry => exact counted.of_same (found.trans (older entry found).symm) rfl
    | none =>
      refine .of_none found ?_
      have counter := counted.2
      cases before : state.lockout key with
      | none =>
        rw [before] at counter
        exact counter
      | some entry =>
        rw [before] at counter
        obtain ⟨at_, live⟩ := (lockout_some state key entry).mp before
        rcases counter with ⟨zero, _⟩ | ⟨_, none⟩
        · have still := kept entry (lookup_mem at_).1 zero live
          rw [(lockout_some { state with now := later } key entry).mpr ⟨at_, still⟩] at found
          cases found
        · exact none
  · simp only [State.locked, any_eq_true, decide_eq_true_eq]
    rintro ⟨entry, found, until_⟩
    exact ⟨entry, older entry found, Nat.lt_of_le_of_lt order until_⟩

def State.counter (settings : Settings) (state : State) (key : AccountKey) : Lockout :=
  if settings.lockoutThreshold ≤ state.failures key + 1 then
    { key := key
      failures := settings.lockoutThreshold
      lockedUntil := state.now + settings.lockMs
      expiresAt := state.now + settings.lockMs }
  else
    { key := key
      failures := state.failures key + 1
      lockedUntil := 0
      expiresAt := state.now + settings.lockMs }

def State.outcome (settings : Settings) (state : State) (key : AccountKey) : Outcome :=
  if settings.lockoutThreshold ≤ state.failures key + 1 then .locked else .failed

theorem recordFailure_unlocked (unlocked : state.locked key = false) :
    state.recordFailure settings key =
      { state with
        lockouts := upsert Lockout.key (state.counter settings key) state.lockouts
        outcomes := (key, state.outcome settings key) :: state.outcomes } := by
  unfold State.recordFailure State.counter State.outcome
  rw [unlocked, if_neg Bool.false_ne_true]
  split <;> rfl

theorem recordFailure_lockout (key other : AccountKey) (unlocked : state.locked key = false) :
    (state.recordFailure settings key).lockout other =
      if key = other then some (state.counter settings key) else state.lockout other := by
  rw [recordFailure_unlocked unlocked]
  have named : (state.counter settings key).key = key := by
    unfold State.counter
    split <;> rfl
  have live : state.now < (state.counter settings key).expiresAt := by
    have positive := settings.lock_pos
    unfold State.counter
    split <;> simp [positive]
  simp only [State.lockout, lookup_upsert, named]
  split
  · simp [Option.filter, live]
  · rfl

theorem recordFailure_counted (counted : ∀ key, Counted settings state key) :
    Counted settings (state.recordFailure settings key) other := by
  cases unlocked : state.locked key with
  | true =>
    rw [State.recordFailure, if_pos unlocked]
    exact counted other
  | false =>
    have lockout := @recordFailure_lockout settings state key other unlocked
    by_cases same : key = other
    · subst same
      rw [if_pos rfl] at lockout
      have failures := (counted key).failures settings state unlocked
      unfold Counted
      rw [lockout, recordFailure_unlocked unlocked]
      by_cases last : settings.lockoutThreshold ≤ state.failures key + 1
      · simp [State.counter, State.outcome, last, failuresSince, settings.threshold_pos]
      have counted' : failuresSince key ((key, .failed) :: state.outcomes) =
          state.failures key + 1 := by
        rw [failures]
        simp [failuresSince]
      simp only [State.counter, State.outcome, if_neg last, counted']
      exact ⟨Nat.lt_of_not_le last, Or.inl ⟨trivial, trivial⟩⟩
    · rw [if_neg same] at lockout
      refine (counted other).of_same lockout ?_
      rw [recordFailure_unlocked unlocked]
      exact failuresSince_other same

theorem recordFailure_exact {key : AccountKey} (counted : Counted settings state key)
    (exact_ : LocksExact settings.lockoutThreshold state.outcomes) :
    LocksExact settings.lockoutThreshold (state.recordFailure settings key).outcomes := by
  cases unlocked : state.locked key with
  | true =>
    rw [State.recordFailure, if_pos unlocked]
    exact exact_
  | false =>
    have failures := counted.failures settings state unlocked
    have below := counted.1
    rw [recordFailure_unlocked unlocked]
    refine ⟨fun _ => ?_, exact_⟩
    unfold State.outcome
    split
    · simp
      omega
    · simp
      omega

theorem recordFailure_locked (locked : (state.recordFailure settings key).locked other = true) :
    state.locked other = true ∨ (key = other ∧ state.lastTry settings key = true) := by
  cases unlocked : state.locked key with
  | true =>
    rw [State.recordFailure, if_pos unlocked] at locked
    exact Or.inl locked
  | false =>
    have lockout := @recordFailure_lockout settings state key other unlocked
    have now : (state.recordFailure settings key).now = state.now := by
      rw [recordFailure_unlocked unlocked]
    by_cases same : key = other
    · rw [if_pos same] at lockout
      refine Or.inr ⟨same, ?_⟩
      simp only [State.locked, lockout, now, any_some, decide_eq_true_eq] at locked
      by_cases last : settings.lockoutThreshold ≤ state.failures key + 1
      · simp [State.lastTry, unlocked, last]
      · simp [State.counter, last] at locked
    · rw [if_neg same] at lockout
      simp only [State.locked, lockout, now] at locked
      exact Or.inl locked

end

/-! ## Who is between the steps of an account that is not locked -/

structure LockoutSound (settings : Settings) (state : State) : Prop where
  once : HeldOnce state.jobs
  preauths : ∀ challenge ∈ state.preauths, state.now < challenge.expiresAt →
    state.locked (.admin challenge.adminId) = false
  jobs : ∀ job ∈ state.jobs.jobs, ∀ adminId ∈ job.2.unlocked,
    state.locked (.admin adminId) = false
  counted : ∀ key, Counted settings state key
  holds : LockoutHolds settings state

namespace LockoutSound

theorem false_of_imp {first second : Bool} (implies : second = true → first = true)
    (no : first = false) : second = false := by
  cases second with
  | false => rfl
  | true => rw [implies rfl] at no; cases no

variable {settings : Settings} {before : State} (sound : LockoutSound settings before)
include sound

theorem kept (after : State) (later : before.now ≤ after.now)
    (locked : ∀ key, after.locked key = true → before.locked key = true)
    (once : HeldOnce after.jobs)
    (preauths : ∀ challenge ∈ after.preauths, challenge ∈ before.preauths ∨
      before.locked (.admin challenge.adminId) = false)
    (jobs : ∀ job ∈ after.jobs.jobs, ∀ adminId ∈ job.2.unlocked,
      before.locked (.admin adminId) = false) (counted : ∀ key, Counted settings after key)
    (holds : LockoutHolds settings after) : LockoutSound settings after := by
  refine ⟨once, ?_, ?_, counted, holds⟩
  · intro challenge member live
    rcases preauths challenge member with old | known
    · exact false_of_imp (locked _) (sound.preauths challenge old (Nat.lt_of_le_of_lt later live))
    · exact false_of_imp (locked _) known
  · intro job member adminId own
    exact false_of_imp (locked _) (jobs job member adminId own)

theorem beside (after : State) (now : after.now = before.now)
    (lockouts : after.lockouts = before.lockouts) (outcomes : after.outcomes = before.outcomes)
    (once : HeldOnce after.jobs)
    (preauths : ∀ challenge ∈ after.preauths, challenge ∈ before.preauths ∨
      before.locked (.admin challenge.adminId) = false)
    (jobs : ∀ job ∈ after.jobs.jobs, ∀ adminId ∈ job.2.unlocked,
      before.locked (.admin adminId) = false)
    (issued : ∀ issue ∈ after.issued, issue ∈ before.issued ∨ issue.locked = false) :
    LockoutSound settings after := by
  have lockout : ∀ key, after.lockout key = before.lockout key := by
    intro key
    rw [State.lockout, State.lockout, now, lockouts]
  refine sound.kept after (Nat.le_of_eq now.symm) ?_ once preauths jobs ?_ ?_
  · intro key locked
    rw [State.locked, lockout, now] at locked
    exact locked
  · intro key
    exact (sound.counted key).of_same (lockout key) (by rw [outcomes])
  constructor
  · intro issue member
    rcases issued issue member with old | known
    · exact sound.holds.1 issue old
    · exact known
  · rw [outcomes]
    exact sound.holds.2

theorem elsewhere {after : State} (same : Beside before after) : LockoutSound settings after :=
  sound.beside after same.now same.lockouts same.outcomes (same.jobs ▸ sound.once)
    (fun _ member => Or.inl (same.preauths ▸ member)) (same.jobs ▸ sound.jobs)
    (fun _ member => Or.inl (same.issued ▸ member))

theorem begin (job : Job) (free : job.holds = none)
    (known : ∀ adminId ∈ job.unlocked, before.locked (.admin adminId) = false) :
    LockoutSound settings (before.begin job) := by
  refine sound.beside _ rfl rfl rfl (sound.once.begin job free) (fun _ member => Or.inl member) ?_
    (fun _ member => Or.inl member)
  exact Pool.forall_begin sound.jobs known

theorem resume (number : Nat) (next : Option Job) (once : HeldOnce (before.jobs.resume number next))
    (known : ∀ job ∈ next, ∀ adminId ∈ job.unlocked, before.locked (.admin adminId) = false) :
    LockoutSound settings (before.resume number next) := by
  refine sound.beside _ rfl rfl rfl once (fun _ member => Or.inl member) ?_
    (fun _ member => Or.inl member)
  exact Pool.forall_resume sound.jobs known

theorem goOn (number : Nat) {job : Job} {next : Option Job}
    (found : before.jobs.find number = some job) (keeps : Keeps job next) :
    LockoutSound settings (before.resume number next) := by
  refine sound.resume number next (sound.once.goOn number job next found keeps.row) ?_
  intro later among adminId own
  exact sound.jobs (number, job) (before.jobs.find_mem number job found) adminId
    (keeps.own later among adminId own)

variable (key : AccountKey)

theorem lockoutStatus : LockoutSound settings (before.lockoutStatus key) := by
  have counters := fun other => lockoutStatus_counted key other sound.counted
  obtain ⟨now, jobs, preauths, issued, outcomes⟩ := @lockoutStatus_rest before key
  refine sound.kept _ (Nat.le_of_eq now.symm) ?_ (jobs ▸ sound.once) ?_ (jobs ▸ sound.jobs)
    (fun other => (counters other).1) ?_
  · intro other locked
    rw [(counters other).2] at locked
    exact locked
  · rw [preauths]
    exact fun _ member => Or.inl member
  · rw [LockoutHolds, issued, outcomes]
    exact sound.holds

theorem recordFailure
    (alone : ∀ adminId, key = .admin adminId → before.lastTry settings key = true →
      (∀ challenge ∈ before.preauths, before.now < challenge.expiresAt →
        challenge.adminId ≠ adminId) ∧
      ∀ job ∈ before.jobs.jobs, job.2.unlocked ≠ some adminId) :
    LockoutSound settings (before.recordFailure settings key) := by
  have rest : (before.recordFailure settings key).now = before.now ∧
      (before.recordFailure settings key).jobs = before.jobs ∧
      (before.recordFailure settings key).preauths = before.preauths ∧
      (before.recordFailure settings key).issued = before.issued := by
    unfold State.recordFailure
    split
    · simp
    · split <;> simp
  obtain ⟨now, jobs, preauths, issued⟩ := rest
  refine ⟨jobs ▸ sound.once, ?_, ?_, fun other => recordFailure_counted sound.counted,
    ?_, recordFailure_exact (sound.counted key) sound.holds.2⟩
  · rw [preauths, now]
    intro challenge member live
    refine Bool.eq_false_iff.mpr fun locked => ?_
    rcases recordFailure_locked locked with already | ⟨same, last⟩
    · rw [sound.preauths challenge member live] at already
      cases already
    · exact (alone _ same last).1 challenge member live rfl
  · rw [jobs]
    intro job member adminId own
    refine Bool.eq_false_iff.mpr fun locked => ?_
    rcases recordFailure_locked locked with already | ⟨same, last⟩
    · rw [sound.jobs job member adminId own] at already
      cases already
    · exact (alone _ same last).2 job member own
  · rw [issued]
    exact sound.holds.1

theorem clearFailures : LockoutSound settings (before.clearFailures key) := by
  have counters := fun other => clearFailures_counted key other sound.counted
  refine sound.kept _ (Nat.le_refl _) (fun other => (counters other).2) sound.once
    (fun _ member => Or.inl member) sound.jobs (fun other => (counters other).1)
    ⟨sound.holds.1, ?_⟩
  exact ⟨fun failed => absurd rfl failed, sound.holds.2⟩

theorem issuePreauth (adminId : Uuid) (purpose : Purpose) (context : Network) (password : Password)
    (unlocked : before.locked (.admin adminId) = false) :
    LockoutSound settings (before.issuePreauth settings adminId purpose context password) := by
  refine sound.beside _ rfl rfl rfl sound.once ?_ sound.jobs (fun _ member => Or.inl member)
  exact forall_mem_added (fun _ => Or.inl) (Or.inr unlocked)

theorem dropPreauth (token : Token) : LockoutSound settings (before.dropPreauth token) :=
  sound.beside _ rfl rfl rfl sound.once
    (fun _ member => Or.inl ((mem_remove PreAuth.token).mp member).1)
    sound.jobs (fun _ member => Or.inl member)

theorem noteIssue (adminId : Uuid) (method : Admin.SessionMethod) (verified : Option Password)
    (unlocked : before.locked (.admin adminId) = false) :
    LockoutSound settings (before.noteIssue adminId method verified) := by
  refine sound.beside _ rfl rfl rfl sound.once (fun _ member => Or.inl member) sound.jobs ?_
  intro issue member
  rcases List.mem_cons.mp member with new | old
  · subst new
    exact Or.inr unlocked
  · exact Or.inl old

end LockoutSound

section

variable {settings : Settings} {before after : State}

theorem recordFailure_resume (key : AccountKey) (number : Nat) (next : Option Job) :
    (before.recordFailure settings key).resume number next =
      (before.resume number next).recordFailure settings key := by
  have locked : (before.resume number next).locked key = before.locked key := rfl
  have failures : (before.resume number next).failures key = before.failures key := rfl
  unfold State.recordFailure
  rw [locked, failures]
  split
  · rfl
  · split <;> rfl

variable {adminId : Uuid} {job : Job} {number : Nat}

theorem verifyFactor_denied {factor : Factor} {key : AccountKey}
    (denied : before.verifyFactor adminId factor = .denied key) : key = .admin adminId := by
  cases factor with
  | totp | recovery | enrolment =>
    simp only [State.verifyFactor] at denied
    split at denied
    · cases denied
    · exact ((State.deniedUnless_denied).mp denied).2.symm
  | passkey credentialId newSignCount =>
    exact ((State.deniedUnless_denied).mp denied).2.symm

theorem denied_holds (denied : before.verdict job = some (.denied (.admin adminId))) :
    job.holds = some adminId := by
  unfold State.verdict at denied
  split at denied
  · rename_i known identifier password context locked
    obtain ⟨_, key⟩ := (State.deniedUnless_denied).mp (some.inj denied)
    cases known with
    | none => cases key
    | some own =>
      cases key
      rfl
  · split at denied
    · cases verifyFactor_denied (some.inj denied)
      rfl
    · cases denied
  · split at denied
    · cases denied
    · cases verifyFactor_denied (some.inj denied)
      rfl
  · split at denied <;> cases denied
  · cases denied

variable (sound : LockoutSound settings before)
include sound

theorem denied_sound {key : AccountKey} (found : before.jobs.find number = some job)
    (denied : before.verdict job = some (.denied key))
    (alone : ∀ adminId ∈ before.locks settings number, before.Alone number adminId) :
    LockoutSound settings
      ((before.recordFailure settings key).resume number (some (.closing job.holds))) := by
  rw [recordFailure_resume]
  have closed : LockoutSound settings (before.resume number (some (.closing job.holds))) :=
    sound.goOn number found (.going (.inr rfl) (.inl rfl) (.inl rfl))
  refine closed.recordFailure key ?_
  intro adminId same last
  subst same
  have locks : before.locks settings number = some adminId := by
    have last' : before.lastTry settings (.admin adminId) = true := last
    simp [State.locks, found, denied, last']
  obtain ⟨unchallenged, idle⟩ := alone adminId locks
  refine ⟨unchallenged, ?_⟩
  intro entry member own
  rcases before.jobs.mem_resume number member with ⟨old, other⟩ | ⟨_, new⟩
  · -- Whoever found the account unlocked a moment ago holds its row, and so does this request.
    unfold Job.unlocked at own
    split at own
    · rename_i held
      exact other (sound.once entry old (number, job) (before.jobs.find_mem number job found)
        adminId (by rw [held]; exact own) (denied_holds denied))
    · exact idle entry old other own
  · rw [← some.inj new] at own
    cases own

theorem written_sound {written : State} (found : before.jobs.find number = some job)
    (writes : Written settings before job written) : LockoutSound settings written := by
  have known := sound.jobs (number, job) (before.jobs.find_mem number job found)
  cases writes with
  | beside same => exact sound.elsewhere same
  | challenged adminId purpose context password own right =>
    exact sound.issuePreauth adminId purpose context password (known adminId own)
  | issued adminId method verified own right same =>
    exact (sound.noteIssue adminId method verified (known adminId own)).elsewhere same
  | cleared key => exact sound.clearFailures key

theorem step_sound (event : Event) (alone : LocksAlone settings before event)
    (taken : step settings before event = some after) : LockoutSound settings after := by
  cases step_change taken with
  | ticked later order =>
    have counters := fun key => tick_counted order alone (sound.counted key)
    exact sound.kept _ order (fun key => (counters key).2) sound.once
      (fun _ member => Or.inl member) sound.jobs (fun key => (counters key).1) sound.holds
  | administered admins inForce =>
    exact sound.beside _ rfl rfl rfl sound.once (fun _ member => Or.inl member) sound.jobs
      (fun _ member => Or.inl member)
  | beside same => exact sound.elsewhere same
  | begun job free own plain => exact sound.begin job free (by simp [own])
  | spent token job waits live same free own =>
    refine ((sound.dropPreauth token).elsewhere same).begin job free ?_
    have unlocked := sound.preauths _ waits live
    intro adminId taken
    cases (Job.unlocked_of_challenge own).symm.trans taken
    rw [State.locked, State.lockout, same.now, same.lockouts]
    exact unlocked
  | looked number next key found row plain known =>
    obtain ⟨_, jobs, _⟩ := @lockoutStatus_rest before key
    refine (sound.lockoutStatus key).resume number (some next) ?_ ?_
    · rw [jobs]
      exact sound.once.goOn number _ (some next) found (by simpa using row)
    intro later among adminId own
    cases among
    rw [(lockoutStatus_counted key (.admin adminId) sound.counted).2]
    exact known adminId own
  | locked number next found free own spent =>
    refine sound.resume number (some next) (sound.once.resume number (some next) ?_) ?_
    · intro later among adminId held other member _ elsewhere
      cases among
      exact free adminId held (List.any_eq_true.mpr ⟨other, member, decide_eq_true elsewhere⟩)
    · intro later among adminId unlocked
      cases among
      exact sound.jobs _ (before.jobs.find_mem number _ found) adminId (own ▸ unlocked)
  | denied number job key found wrong => exact denied_sound sound found wrong alone
  | changed number next adminId new now found keeps changes =>
    have written := sound.beside (before.writePassword adminId new now) rfl rfl rfl sound.once
      (fun _ member => Or.inl member) sound.jobs (fun _ member => Or.inl member)
    exact written.goOn number found keeps
  | wentOn number next found keeps writes =>
    have written := written_sound sound found writes
    rw [← writes.jobs] at found
    exact written.goOn number found keeps

end

/-- While `LocksAlone`, no session is issued to a locked account, and exactly the failures that
reach the threshold lock it. -/
theorem lockout_holds (settings : Settings) (now : Nat) (admins : List AdminUser)
    (totp : List TotpCredential) (recovery : List RecoveryCode) (passkeys : List Passkey)
    (sessions : List Session) (nextToken : Nat) (events : List Event)
    (alone : RunMeets (step settings) (LocksAlone settings) events
      (.begun now admins totp recovery passkeys sessions nextToken)) :
    AlwaysAlong (step settings) (LockoutHolds settings) events
      (.begun now admins totp recovery passkeys sessions nextToken) := by
  refine alwaysAlong_of_invariant (LockoutSound settings)
    (LockoutHolds settings) ?_ (fun _ sound => sound.holds) ?_ alone
  · intro before event after sound alone taken
    exact step_sound sound event alone taken
  · exact ⟨List.forall_mem_nil _, List.forall_mem_nil _, List.forall_mem_nil _,
      fun _ => .of_none rfl rfl, List.forall_mem_nil _, trivial⟩

def wrongPasswords (first : Nat) : List Event :=
  (List.range 5).flatMap fun index => passwordStep (first + index) 9

def lockedRun : List Event :=
  wrongPasswords 0 ++ passwordStep 5 7 ++ [.tick 900000] ++ passwordStep 6 9 ++
    passwordStep 7 7 ++ codeStep 8 4 (some 1) ++ [.afterCommit 8]

theorem lockout_holds_locked :
    AlwaysAlong (step .defaults) (LockoutHolds .defaults) lockedRun .oneAdmin ∧
      ((runEvents (step .defaults) lockedRun .oneAdmin).map fun final =>
        (final.issued.length, final.outcomes.map Prod.snd)) =
        some (1, [.succeeded, .failed, .locked, .failed, .failed, .failed, .failed]) :=
  ⟨lockout_holds .defaults 0 _ _ _ _ _ _ lockedRun (by decide +kernel), by decide +kernel⟩

/-- The challenge was given before the account was locked, and is answered after. -/
def lockedOutRun : List Event :=
  passwordStep 0 7 ++ wrongPasswords 1 ++ codeStep 6 4 (some 1)

theorem session_issued_while_locked :
    ¬ AlwaysAlong (step .defaults) (LockoutHolds .defaults) lockedOutRun .oneAdmin :=
  not_alwaysAlong (LockoutHolds .defaults) lockedOutRun _ (by decide +kernel)

end Nebula.SignIn
