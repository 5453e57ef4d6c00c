import Nebula.Runs

/-!
# The rate limiter

`_RATE_LIMIT_LUA` counts a call in each of its buckets, gives a counter without a lifetime one of
the call's window, and allows the call if no counter exceeds the limit. A refused call stays
counted. The script is atomic: the window of a bucket is the life of its key.
-/

namespace Nebula.RateLimit

open Runs Option

structure Counter where
  count : Nat
  expiresAt : Option Nat

structure Limiter (Key : Type) where
  now : Nat
  counters : Key → Option Counter

/-- The keys are derived from the buckets. -/
structure Call (Key : Type) where
  keys : List Key
  limit : Nat
  windowSeconds : Nat

def Call.Valid {Key : Type} (call : Call Key) : Prop :=
  call.keys ≠ [] ∧ 1 ≤ call.limit ∧ call.limit ≤ 100000 ∧ 1 ≤ call.windowSeconds ∧
    call.windowSeconds ≤ 86400
  deriving Decidable

/-- `INCR` and, for a new counter or one without a lifetime, `PEXPIRE`. -/
def incr (now window : Nat) (counter : Option Counter) : Counter :=
  let count := counter.elim 0 Counter.count + 1
  let expiresAt := counter.bind Counter.expiresAt
  { count := count
    expiresAt := if count = 1 ∨ expiresAt = none then some (now + window) else expiresAt }

def Counter.lives (counter : Counter) (now : Nat) : Bool :=
  counter.expiresAt.all (decide <| now < ·)

def Counter.RunsOut (now : Nat) (counter : Counter) : Prop :=
  ∃ expiry, counter.expiresAt = some expiry ∧ now < expiry

variable {now limit window : Nat}

theorem incr_runsOut {counter : Option Counter} (positive : 0 < window)
    (running : ∀ old ∈ counter, 1 ≤ old.count ∧ old.RunsOut now) :
    (incr now window counter).RunsOut now ∧
      ∀ old ∈ counter, (incr now window counter).expiresAt = old.expiresAt := by
  cases counter with
  | none => exact ⟨⟨now + window, by simp [incr], by omega⟩, fun _ found => nomatch found⟩
  | some old =>
    obtain ⟨counts, expiry, carries, left⟩ := running old rfl
    have kept : (incr now window (some old)).expiresAt = old.expiresAt := by
      simp [incr, carries]
      omega
    exact ⟨⟨expiry, kept.trans carries, left⟩, fun counter found => mem_some.mp found ▸ kept⟩

section

variable {Key : Type} [DecidableEq Key]

def script (now limit window : Nat) :
    List Key → Bool × (Key → Option Counter) → Bool × (Key → Option Counter)
  | [], result => result
  | key :: rest, (allowed, counters) =>
    let counter := incr now window (counters key)
    script now limit window rest (allowed && decide (counter.count ≤ limit),
      fun other => if other = key then some counter else counters other)

variable (limiter : Limiter Key)

/-- What `rate_limit` answers, if it does, and the counters it leaves. -/
def Limiter.rateLimit (call : Call Key) : Option Bool × Limiter Key :=
  if call.Valid then
    let result := script limiter.now call.limit (call.windowSeconds * 1000) call.keys
      (true, limiter.counters)
    (some result.1, { limiter with counters := result.2 })
  else (none, limiter)

inductive Event (Key : Type) where
  | tick (later : Nat)
  | call (call : Call Key)

def step : Event Key → Option (Limiter Key)
  | .tick later =>
    if limiter.now ≤ later then
      some ⟨later, fun key => (limiter.counters key).filter (Counter.lives · later)⟩
    else none
  | .call call => some (limiter.rateLimit call).2

/-- How many calls of the run name the bucket under at most this limit and are answered yes. -/
def admitted (key : Key) (limit : Nat) : List (Event Key) → Limiter Key → Nat
  | [], _ => 0
  | event :: rest, limiter =>
    (match event with
      | .tick _ => 0
      | .call call =>
        if key ∈ call.keys ∧ call.limit ≤ limit ∧ (limiter.rateLimit call).1 = some true then 1
        else 0) + (step limiter event).elim 0 (admitted key limit rest)

/-- The bucket's counter does not expire: its window goes on. -/
def Lasts (key : Key) (limiter : Limiter Key) : Event Key → Bool
  | .tick later => (limiter.counters key).all (Counter.lives · later)
  | .call _ => true

/-- Every counter has a lifetime that still runs; the step ends none early and extends none. -/
def Expires (_ : Event Key) (next : Limiter Key) : Prop :=
  ∀ key, ∀ counter ∈ limiter.counters key, ∃ expiry, counter.expiresAt = some expiry ∧
    limiter.now < expiry ∧
      if next.now < expiry then ∃ after ∈ next.counters key, after.expiresAt = some expiry
      else next.counters key = none

def counted (counters : Key → Option Counter) (key : Key) : Nat :=
  (counters key).elim 0 Counter.count

theorem counted_incr (counters : Key → Option Counter) (first : Key) (rest : List Key)
    (key : Key) :
    counted (fun other => if other = first then some (incr now window (counters first))
        else counters other) key + rest.count key =
      counted counters key + (first :: rest).count key := by
  rw [List.count_cons]
  by_cases named : key = first
  · subst named
    simp only [counted, incr, if_true, elim_some, beq_self_eq_true]
    omega
  · simp [counted, named, Ne.symm named]

theorem script_counted (keys : List Key) (allowed : Bool) (counters : Key → Option Counter)
    (key : Key) : counted (script now limit window keys (allowed, counters)).2 key =
      counted counters key + keys.count key := by
  induction keys generalizing allowed counters with
  | nil => rfl
  | cons first rest ih => rw [script, ih, counted_incr]

/-- A call is allowed if what it leaves counted in each of its buckets is within the limit. -/
theorem script_allowed (keys : List Key) (allowed : Bool) (counters : Key → Option Counter) :
    (script now limit window keys (allowed, counters)).1 = true ↔
      allowed = true ∧ ∀ key ∈ keys, counted counters key + keys.count key ≤ limit := by
  induction keys generalizing allowed counters with
  | nil => simp [script]
  | cons first rest ih =>
    have own : (incr now window (counters first)).count = counted counters first + 1 := rfl
    simp only [script, ih, counted_incr, own, Bool.and_eq_true, decide_eq_true_eq, and_assoc,
      List.forall_mem_cons]
    refine and_congr_right fun _ => and_congr_left fun others => ?_
    rw [List.count_cons_self]
    by_cases again : first ∈ rest
    · have last := others first again
      rw [List.count_cons_self] at last
      omega
    · rw [List.count_eq_zero.mpr again]

def Running (now : Nat) (counters : Key → Option Counter) : Prop :=
  ∀ key, ∀ counter ∈ counters key, 1 ≤ counter.count ∧ counter.RunsOut now

theorem script_running (keys : List Key) {allowed : Bool} {counters : Key → Option Counter}
    (running : Running now counters) (positive : 0 < window) :
    Running now (script now limit window keys (allowed, counters)).2 ∧
      ∀ key, ∀ counter ∈ counters key,
        ∃ after ∈ (script now limit window keys (allowed, counters)).2 key,
          after.expiresAt = counter.expiresAt := by
  induction keys generalizing allowed counters with
  | nil => exact ⟨running, fun key counter found => ⟨counter, found, rfl⟩⟩
  | cons first rest ih =>
    obtain ⟨lives, kept⟩ := incr_runsOut positive (running first)
    have next : Running now fun other =>
        if other = first then some (incr now window (counters first)) else counters other := by
      intro key counter found
      by_cases named : key = first
      · subst named
        simp only [if_true, mem_some] at found
        subst found
        exact ⟨Nat.le_add_left _ _, lives⟩
      · exact running key counter ((if_neg named).symm.trans found)
    obtain ⟨runs, after⟩ := ih next
    refine ⟨runs, fun key counter found => ?_⟩
    by_cases named : key = first
    · subst named
      obtain ⟨last, stays, same⟩ := after key _ (if_pos rfl)
      exact ⟨last, stays, same.trans (kept counter found)⟩
    · exact after key counter ((if_neg named).trans found)

theorem rateLimit_counted (call : Call Key) (key : Key) :
    counted limiter.counters key ≤ counted (limiter.rateLimit call).2.counters key ∧
      (key ∈ call.keys → (limiter.rateLimit call).1 = some true →
        counted limiter.counters key < counted (limiter.rateLimit call).2.counters key ∧
          counted (limiter.rateLimit call).2.counters key ≤ call.limit) := by
  unfold Limiter.rateLimit
  split
  · rw [script_counted]
    refine ⟨Nat.le_add_right _ _, fun named answer => ?_⟩
    have within := ((script_allowed _ _ _).mp (some.inj answer)).2 key named
    have := List.count_pos_iff.mpr named
    omega
  · exact ⟨Nat.le_refl _, fun _ answer => nomatch answer⟩

/-- What the window can still admit is what its counter leaves of the limit. -/
theorem admitted_le {key : Key} {limit : Nat} {events : List (Event Key)} {limiter : Limiter Key}
    (lasts : RunMeets step (Lasts key · ·) events limiter) :
    admitted key limit events limiter ≤ limit - counted limiter.counters key := by
  induction events generalizing limiter with
  | nil => exact Nat.zero_le _
  | cons event rest ih =>
    cases event with
    | call call =>
      have later := ih (lasts.2 _ rfl)
      obtain ⟨more, admits⟩ := rateLimit_counted limiter call key
      simp only [admitted, step, elim_some]
      split
      · rename_i answered
        have := admits answered.1 answered.2.2
        omega
      · omega
    | tick later =>
      cases taken : step limiter (.tick later) with
      | none => simp [admitted, taken]
      | some next =>
        have left := ih (lasts.2 next taken)
        have stays := lasts.1
        have same : counted next.counters key = counted limiter.counters key := by
          obtain ⟨_, taken⟩ := ite_none_right_eq_some.mp taken
          cases taken
          cases held : limiter.counters key with
          | none => simp [counted, held]
          | some counter =>
            simp only [Lasts, held, all_some] at stays
            simp [counted, held, Option.filter, stays]
        simp only [admitted, taken, elim_some]
        omega

theorem step_expires {limiter next : Limiter Key} {event : Event Key}
    (running : Running limiter.now limiter.counters) (taken : step limiter event = some next) :
    Running next.now next.counters ∧ Expires limiter event next := by
  cases event with
  | tick later =>
    obtain ⟨_, taken⟩ := ite_none_right_eq_some.mp taken
    cases taken
    refine ⟨fun key counter found => ?_, fun key counter found => ?_⟩
    · obtain ⟨old, left⟩ := filter_eq_some_iff.mp found
      obtain ⟨counts, expiry, carries, _⟩ := running key counter old
      exact ⟨counts, expiry, carries, by simpa [Counter.lives, carries] using left⟩
    · obtain ⟨_, expiry, carries, left⟩ := running key counter found
      refine ⟨expiry, carries, left, ?_⟩
      split
      · exact ⟨counter, by simp_all [Counter.lives], carries⟩
      · simp_all [Counter.lives]
  | call call =>
    cases taken
    have kept : Running (limiter.rateLimit call).2.now (limiter.rateLimit call).2.counters ∧
        ∀ key, ∀ counter ∈ limiter.counters key,
          ∃ after ∈ (limiter.rateLimit call).2.counters key,
            after.expiresAt = counter.expiresAt := by
      unfold Limiter.rateLimit
      split
      · rename_i valid
        exact script_running _ running (Nat.mul_pos valid.2.2.2.1 (by decide))
      · exact ⟨running, fun key counter found => ⟨counter, found, rfl⟩⟩
    refine ⟨kept.1, fun key counter found => ?_⟩
    obtain ⟨_, expiry, carries, left⟩ := running key counter found
    obtain ⟨after, stays, same⟩ := kept.2 key counter found
    have now : (limiter.rateLimit call).2.now = limiter.now := by
      unfold Limiter.rateLimit
      split <;> rfl
    exact ⟨expiry, carries, left, (if_pos (now ▸ left)).mpr ⟨after, stays, same.trans carries⟩⟩

theorem rateLimit_refused {limiter : Limiter Key} {call : Call Key} (distinct : call.keys.Nodup)
    (refused : (limiter.rateLimit call).1 = some false) :
    ∃ key ∈ call.keys, ∃ counter ∈ limiter.counters key, call.limit ≤ counter.count := by
  unfold Limiter.rateLimit at refused
  split at refused
  case isFalse => cases refused
  rename_i valid
  have refused : ¬ _ = true := Bool.eq_false_iff.mp (some.inj refused)
  rw [script_allowed] at refused
  simp only [true_and, not_forall] at refused
  obtain ⟨key, named, exceeds⟩ := refused
  rw [distinct.count, if_pos named] at exceeds
  have := valid.2.1
  refine ⟨key, named, ?_⟩
  cases found : limiter.counters key with
  | none =>
    simp only [counted, found, elim_none] at exceeds
    omega
  | some counter =>
    simp only [counted, found, elim_some] at exceeds
    exact ⟨counter, rfl, by omega⟩

/-- A window of a bucket is any part of a run that its counter outlasts. -/
theorem limiter_admits_its_limit (events : List (Event Key)) (now : Nat) :
    EachStep step Expires events ⟨now, fun _ => none⟩ ∧
      (∀ (key : Key) limit window limiter, RunMeets step (Lasts key · ·) window limiter →
        admitted key limit window limiter ≤ limit) ∧
      ∀ (limiter : Limiter Key) (call : Call Key), call.keys.Nodup →
        (limiter.rateLimit call).1 = some false →
          ∃ key ∈ call.keys, ∃ counter ∈ limiter.counters key, call.limit ≤ counter.count := by
  refine ⟨eachStep_of_invariant (fun limiter => Running limiter.now limiter.counters)
    (fun _ _ _ running _ taken => (step_expires running taken).1)
    (fun _ _ _ running _ taken => (step_expires running taken).2) (fun _ _ found => nomatch found)
    (runMeets_of_forall step (fun _ _ => trivial) events _), ?_, fun _ _ => rateLimit_refused⟩
  exact fun key limit window limiter lasts => Nat.le_trans (admitted_le lasts) (Nat.sub_le _ _)

/-- Two sign-ins from one network, then one of another account there. -/
def signIns : List (Event Nat) :=
  [.call ⟨[1, 9], 2, 60⟩, .tick 59999, .call ⟨[1, 9], 2, 60⟩, .call ⟨[2, 9], 2, 60⟩]

theorem limiter_admits_two_sign_ins :
    (RunMeets step (Lasts 9 · ·) signIns ⟨0, fun _ => none⟩ ∧
      admitted 9 2 signIns ⟨0, fun _ => none⟩ = 2) ∧ admitted 9 2 signIns ⟨0, fun _ => none⟩ ≤ 2 :=
  ⟨by decide, (limiter_admits_its_limit signIns 0).2.1 9 2 signIns _ (by decide)⟩

end

end Nebula.RateLimit
