import Mathlib.Algebra.Ring.Nat
import Mathlib.Data.List.Basic

/-!
# Metering counters that start again

A counter counts up from zero and starts again now and then. A meter reads it from time to time and
adds up the difference to its last reading, or the whole reading when that is lower.

A moment places a reading on the axis of everything counted so far. A meter whose readings come in
the order of their moments never adds up more than was counted (`Meter.UpTo`), and exactly the last
reading of each lifetime when it can tell every restart (`exactly_settled`).
-/

namespace Nebula.Metering

open List

structure Meter where
  total : Nat
  last : Nat

def delta (reading last : Nat) : Nat :=
  if last ≤ reading then reading - last else reading

def Meter.read (meter : Meter) (reading : Nat) : Meter :=
  ⟨meter.total + delta reading meter.last, reading⟩

def Meter.forget (meter : Meter) : Meter :=
  ⟨meter.total, 0⟩

theorem delta_le (reading last : Nat) : delta reading last ≤ reading := by
  unfold delta
  split <;> omega

theorem delta_of_le {reading last : Nat} (below : last ≤ reading) :
    delta reading last = reading - last := by
  rw [delta, if_pos below]

theorem delta_of_visible {reading last : Nat} (visible : reading < last ∨ last = 0) :
    delta reading last = reading := by
  unfold delta
  split <;> omega

/-- What had been counted in all, and how much before the running counter; `none` if there is no
counter. -/
structure Moment where
  counted : Nat
  started : Option Nat

structure Precedes (earlier later : Moment) : Prop where
  counted : earlier.counted ≤ later.counted
  lifetime : ∀ start ∈ later.started,
    earlier.started = some start ∨ earlier.counted ≤ start

/-- No more is added up than was counted at the mark, whose counter is the last reading. -/
structure Meter.UpTo (meter : Meter) (mark : Moment) : Prop where
  total : meter.total ≤ mark.counted
  last : ∀ start ∈ mark.started, meter.last = mark.counted - start

theorem upTo_zero (counted : Nat) : (⟨0, 0⟩ : Meter).UpTo ⟨counted, none⟩ :=
  ⟨Nat.zero_le counted, nofun⟩

variable {meter : Meter}

theorem Meter.UpTo.read {mark : Moment} (upTo : meter.UpTo mark)
    (moment : Moment) (start : Nat) (follows : Precedes mark moment)
    (running : moment.started = some start) (within : start ≤ moment.counted) :
    (meter.read (moment.counted - start)).UpTo moment := by
  have order := follows.counted
  have bound := upTo.total
  constructor
  · simp only [Meter.read]
    rcases follows.lifetime start running with same | since
    · -- One lifetime: the difference to the mark is what was counted since.
      have last := upTo.last start same
      rw [delta_of_le (by omega), last]
      omega
    · -- A lifetime that began after the mark counted all of the reading since.
      have added := delta_le (moment.counted - start) meter.last
      omega
  · intro other same
    rw [running] at same
    cases same
    rfl

theorem Meter.UpTo.forget {mark : Moment} (upTo : meter.UpTo mark)
    (moment : Moment) (order : mark.counted ≤ moment.counted)
    (missing : moment.started = none) : meter.forget.UpTo moment := by
  refine ⟨Nat.le_trans upTo.total order, ?_⟩
  intro start running
  rw [missing] at running
  cases running

structure Lifetime where
  readings : List Nat
  forgotten : Bool

def Meter.readAll (meter : Meter) (readings : List Nat) : Meter :=
  readings.foldl Meter.read meter

def Meter.live (meter : Meter) (lifetime : Lifetime) : Meter :=
  let read := meter.readAll lifetime.readings
  if lifetime.forgotten then read.forget else read

def Lifetime.lastReading (lifetime : Lifetime) : Nat :=
  lifetime.readings.getLastD 0

/-- The meter can tell that each lifetime is a new one, the last reading before the first
being `last`. -/
def Visible : Nat → List Lifetime → Prop
  | _, [] => True
  | last, lifetime :: rest =>
    (∀ reading ∈ lifetime.readings.head?, reading < last ∨ last = 0) ∧
      Visible (if lifetime.forgotten then 0 else lifetime.readings.getLastD last) rest

theorem readAll_ordered (meter : Meter) {readings : List Nat}
    (ordered : (meter.last :: readings).Pairwise (· ≤ ·)) :
    (meter.readAll readings).total + meter.last =
        meter.total + readings.getLastD meter.last ∧
      (meter.readAll readings).last = readings.getLastD meter.last := by
  induction readings generalizing meter with
  | nil => exact ⟨rfl, rfl⟩
  | cons reading rest ih =>
    obtain ⟨above, restOrdered⟩ := pairwise_cons.mp ordered
    have below := above reading mem_cons_self
    obtain ⟨total, last⟩ := ih (meter.read reading) restOrdered
    have added : (meter.read reading).total = meter.total + (reading - meter.last) := by
      simp only [Meter.read, delta_of_le below]
    have same : (meter.read reading).last = reading := rfl
    rw [added, same] at total
    simp only [Meter.readAll, foldl_cons, getLastD_cons] at total last ⊢
    exact ⟨by omega, last⟩

theorem readAll_visible {readings : List Nat} (ordered : readings.Pairwise (· ≤ ·))
    (visible : ∀ reading ∈ readings.head?, reading < meter.last ∨ meter.last = 0) :
    (meter.readAll readings).total = meter.total + readings.getLastD 0 ∧
      (meter.readAll readings).last = readings.getLastD meter.last := by
  cases readings with
  | nil => exact ⟨rfl, rfl⟩
  | cons reading rest =>
    have added : (meter.read reading).total = meter.total + reading := by
      simp only [Meter.read, delta_of_visible (visible reading rfl)]
    have same : (meter.read reading).last = reading := rfl
    obtain ⟨total, last⟩ := readAll_ordered (meter.read reading) ordered
    rw [added, same] at total
    simp only [Meter.readAll, foldl_cons, getLastD_cons] at total last ⊢
    exact ⟨by omega, last⟩

theorem exactly_settled {lifetimes : List Lifetime} (meter : Meter)
    (ordered : ∀ lifetime ∈ lifetimes, lifetime.readings.Pairwise (· ≤ ·))
    (visible : Visible meter.last lifetimes) :
    (lifetimes.foldl Meter.live meter).total =
      meter.total + (lifetimes.map Lifetime.lastReading).sum := by
  induction lifetimes generalizing meter with
  | nil => rfl
  | cons lifetime rest ih =>
    obtain ⟨total, last⟩ := readAll_visible (ordered lifetime mem_cons_self) visible.1
    have settled : (meter.live lifetime).total = meter.total + lifetime.lastReading := by
      unfold Meter.live
      split <;> exact total
    have left : (meter.live lifetime).last =
        if lifetime.forgotten then 0 else lifetime.readings.getLastD meter.last := by
      unfold Meter.live
      split
      · rfl
      · exact last
    have restVisible : Visible (meter.live lifetime).last rest := by
      rw [left]
      exact visible.2
    have restTotal := ih (meter.live lifetime)
      (fun later member => ordered later (mem_cons_of_mem lifetime member)) restVisible
    rw [foldl_cons, restTotal, settled, map_cons, sum_cons]
    omega

end Nebula.Metering
