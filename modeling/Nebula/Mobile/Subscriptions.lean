import Nebula.Json

/-!
# When a subscription is tried again

`SubscriptionFetcher.refresh`. Dart's `int` keeps 64 bits: the power of two that spaces the
retries out wraps around before the wait is capped. Durations and instants are microseconds.
The count of skipped lines is left out.
-/

namespace Nebula.Mobile.Subscriptions

open Json

def int64 (value : Int) : Int := value.bmod (2 ^ 64)

inductive SubscriptionError where
  | unreachable | refused | tooLarge | empty
  deriving DecidableEq

structure Subscription where
  url : Text
  label : Option Text := none
  links : List Text := []
  fetchedAt : Option Int := none
  checkedAt : Option Int := none
  etag : Option Text := none
  lastModified : Option Text := none
  error : Option SubscriptionError := none
  failures : Int := 0
  nextAt : Option Int := none
  deriving DecidableEq

structure Random where
  draw : Nat → Nat
  below : ∀ bound > 0, draw bound < bound

/-- A bound that is not positive, or too large, is a `RangeError`. -/
def Random.nextInt (random : Random) (bound : Int) : Option Int :=
  if 0 < bound ∧ bound ≤ 2 ^ 32 then some (random.draw bound.toNat) else none

def minutes (count : Int) : Int := int64 (count * 60000000)

def jittered (random : Random) (base : Int) : Option Int :=
  let spread := (base.tdiv 1000000).tdiv 10
  (random.nextInt (2 * spread + 1)).map fun draw => base + int64 ((draw - spread) * 1000000)

/-- `pow(2, exponent).toInt()`; of a negative exponent it is a fraction. -/
def powOfTwo (exponent : Int) : Int := if exponent < 0 then 0 else int64 (2 ^ exponent.toNat)

/-- The wait of `_failed`, before it is spread. -/
def backoff (failures : Int) : Int :=
  minutes (min (int64 (15 * powOfTwo (int64 (failures - 1)))) 720)

/-- An exception, an address or redirect not followed, or the links `sortLinks` keeps of a body,
unless it is too large. -/
inductive Fetch where
  | raised
  | refused
  | answered (status : Nat) (links : Option (List Text)) (etag lastModified : Option Text)

def Fetch.read : Fetch → Except SubscriptionError (Option (List Text × Option Text × Option Text))
  | raised => .error .unreachable
  | refused => .error .refused
  | answered status links etag lastModified =>
    if status = 304 then .ok none
    else if status = 204 then .error .empty
    else if status ≠ 200 then .error .refused
    else
      match links with
      | none => .error .tooLarge
      | some [] => .error .empty
      | some links => .ok (some (links, etag, lastModified))

section

variable (random : Random) (s : Subscription) (now : Int)

def succeeded : Option Subscription :=
  (jittered random (minutes 360)).map fun wait =>
    { s with
      fetchedAt := some (s.fetchedAt.getD now)
      checkedAt := some now
      error := none
      failures := 0
      nextAt := some (now + wait) }

def failed (error : SubscriptionError) : Option Subscription :=
  let failures := int64 (s.failures + 1)
  (jittered random (backoff failures)).map fun wait =>
    { s with error := some error, failures := failures, nextAt := some (now + wait) }

def refresh (fetch : Fetch) : Option Subscription :=
  match fetch.read with
  | .error error => failed random s now error
  | .ok none => succeeded random s now
  | .ok (some (links, etag, lastModified)) =>
    succeeded random
      { s with links := links, fetchedAt := some now, etag := etag, lastModified := lastModified }
      now

theorem jittered_spread (base : Int) (short : 0 ≤ base ∧ base ≤ minutes 720) :
    ∃ wait, jittered random base = some wait ∧ 10 * (wait - base) ≤ base ∧
      10 * (base - wait) ≤ base := by
  have limit : minutes 720 = 43200000000 := by decide
  generalize spreads : (base.tdiv 1000000).tdiv 10 = spread
  have floored : spread = base / 1000000 / 10 := by
    rw [← spreads, Int.tdiv_eq_ediv_of_nonneg short.1, Int.tdiv_eq_ediv_of_nonneg (by omega)]
  have below := random.below (2 * spread + 1).toNat (by omega)
  refine ⟨base + int64 ((random.draw (2 * spread + 1).toNat - spread) * 1000000), ?_, ?_⟩
  · simp only [jittered, spreads, Random.nextInt]
    rw [if_pos (by omega)]
    rfl
  · rw [int64, Int.bmod_eq_of_le (by omega) (by omega)]
    omega

/-- Up to sixty failures in a row nothing wraps around. -/
theorem backoff_eq (failures : Nat) (few : failures < 60) :
    backoff (failures + 1) = 60000000 * min (15 * 2 ^ failures) 720 :=
  (by decide : ∀ count : Fin 60,
    backoff (count.val + 1) = 60000000 * min (15 * 2 ^ count.val) 720) ⟨failures, few⟩

/-- Outside of this range the product has no bit left, or the power of two is a fraction. -/
theorem backoff_eq_zero (failures : Int)
    (outside : ¬ (0 ≤ int64 (failures - 1) ∧ int64 (failures - 1) < 60)) :
    backoff failures = 0 := by
  unfold backoff powOfTwo
  generalize int64 (failures - 1) = exponent at outside
  by_cases fraction : exponent < 0
  · rw [if_pos fraction]
    rfl
  obtain ⟨power, rfl⟩ := Int.eq_ofNat_of_zero_le (Int.not_lt.mp fraction)
  rw [if_neg fraction, Int.toNat_natCast]
  by_cases kept : power < 64
  · exact (by decide : ∀ power : Fin 64, ¬ power.val < 60 →
      minutes (min (int64 (15 * int64 (2 ^ power.val))) 720) = 0) ⟨power, kept⟩ (by dsimp; omega)
  · have gone : int64 (2 ^ power) = 0 := Int.bmod_eq_zero_of_dvd (pow_dvd_pow 2 (by omega))
    rw [gone]
    rfl

structure BacksOff (after : Subscription) (wait : Int) : Prop where
  counted : after.failures = s.failures + 1
  due : after.nextAt = some (now + wait)
  within : 9 * minutes 15 ≤ 10 * wait ∧ 10 * wait ≤ 11 * minutes 720
  spread : 10 * (wait - backoff after.failures) ≤ backoff after.failures ∧
    10 * (backoff after.failures - wait) ≤ backoff after.failures
  grows : ∀ fewer, 0 < fewer → fewer ≤ after.failures → backoff fewer ≤ backoff after.failures
  kept : after.links = s.links ∧ after.etag = s.etag ∧ after.lastModified = s.lastModified

theorem backsOff_of_few (error : SubscriptionError) (few : 0 ≤ s.failures ∧ s.failures < 60) :
    ∃ after wait, failed random s now error = some after ∧ BacksOff s now after wait := by
  obtain ⟨count, same⟩ := Int.eq_ofNat_of_zero_le few.1
  have wraps : int64 (s.failures + 1) = s.failures + 1 := Int.bmod_eq_of_le (by omega) (by omega)
  have base : backoff (s.failures + 1) = _ := same ▸ backoff_eq count (by omega)
  have least : (1 : Int) ≤ 2 ^ count := by exact_mod_cast Nat.one_le_two_pow
  have units : minutes 15 = 900000000 ∧ minutes 720 = 43200000000 := by decide
  obtain ⟨wait, drawn, above, below⟩ :=
    jittered_spread random (backoff (s.failures + 1)) (by omega)
  refine ⟨{ s with error := some error, failures := s.failures + 1, nextAt := some (now + wait) },
    wait, ?_, rfl, rfl, by omega, ⟨above, below⟩, ?_, rfl, rfl, rfl⟩
  · simp [failed, wraps, drawn]
  intro fewer positive upTo
  obtain ⟨less, one⟩ := Int.eq_ofNat_of_zero_le (show 0 ≤ fewer - 1 by omega)
  obtain rfl : fewer = less + 1 := by omega
  have fewer : less ≤ count := by
    dsimp only at upTo
    omega
  have grows : (2 : Int) ^ less ≤ 2 ^ count := by
    exact_mod_cast Nat.pow_le_pow_right (by decide) fewer
  rw [backoff_eq less (by omega), base]
  omega

theorem few_of_backsOff {after : Subscription} {wait : Int} {error : SubscriptionError}
    (step : failed random s now error = some after) (backs : BacksOff s now after wait) :
    0 ≤ s.failures ∧ s.failures < 60 := by
  have counted : after.failures = int64 (s.failures + 1) := by
    obtain ⟨_, _, rfl⟩ := Option.map_eq_some_iff.mp step
    rfl
  rw [backs.counted] at counted
  have low : -2 ^ 63 ≤ s.failures + 1 := counted ▸ Int.le_bmod (by decide)
  have high : s.failures + 1 < 2 ^ 63 := counted ▸ Int.bmod_lt (by decide)
  by_contra outside
  have nothing : backoff (s.failures + 1) = 0 := by
    refine backoff_eq_zero _ fun inside => outside ?_
    rw [Int.add_sub_cancel] at inside
    simp only [int64, Int.bmod_def] at inside
    omega
  have ⟨above, below⟩ := backs.spread
  have least := backs.within.1
  have units : minutes 15 = 900000000 := by decide
  rw [backs.counted, nothing] at above below
  omega

theorem failing_backs_off {fetch : Fetch} {error : SubscriptionError}
    (fails : fetch.read = .error error) :
    (∃ after wait, refresh random s now fetch = some after ∧ BacksOff s now after wait) ↔
      0 ≤ s.failures ∧ s.failures < 60 := by
  simp only [refresh, fails]
  exact ⟨fun ⟨_, _, step, backs⟩ => few_of_backsOff random s now step backs,
    backsOff_of_few random s now error⟩

end

def lowest : Random := ⟨fun _ => 0, fun _ positive => positive⟩

theorem fifth_failure_backs_off :
    ∃ after wait, refresh lowest { url := [], failures := 4 } 0 .raised =
      some after ∧ BacksOff { url := [], failures := 4 } 0 after wait :=
  (failing_backs_off _ _ _ rfl).mpr (by decide)

/-- At the sixty-first failure the product wraps around to nothing: the subscription is due at once.
-/
theorem backoff_lost :
    refresh lowest { url := [], failures := 60 } 0 .raised =
      some { url := [], error := some .unreachable, failures := 61, nextAt := some 0 } ∧
      ¬ 9 * minutes 15 ≤ 0 ∧ backoff 61 < backoff 60 := by
  decide +kernel

end Nebula.Mobile.Subscriptions
