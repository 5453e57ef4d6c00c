import Nebula.Json
import Mathlib.Data.List.Infix

/-!
# The order a server's protocols are listed in

`orderedProfiles`; a profile is known by its code. `List.sort` is not stable, and promises
nothing of a comparison that is no order.
-/

namespace Nebula.Mobile.ProfileOrder

open Json Std

inductive ProtocolDelay where
  | testing
  | measured (milliseconds : Nat)
  | failed
  deriving DecidableEq

def ProtocolDelay.milliseconds : ProtocolDelay → Option Nat
  | measured milliseconds => some milliseconds
  | _ => none

def dnsTunnel : Text := "vless-enc-dns".toList

def grpc (code : Text) : Bool := decide ("grpc".toList <:+: code)

variable (profiles : List Text) (delays : List (Text × ProtocolDelay)) (pinging : Bool)

def rank (code : Text) : Nat :=
  if pinging then 0 else if delays.lookup code = some .failed then 1 else 0

def milliseconds (code : Text) : Option Nat := (delays.lookup code).bind (·.milliseconds)

def compareProfiles (a b : Text) : Ordering :=
  (compare (a == dnsTunnel) (b == dnsTunnel)).then <|
    Ordering.then
      (if !pinging && !delays.isEmpty then
        (compare (rank delays pinging a) (rank delays pinging b)).then <|
          match milliseconds delays a, milliseconds delays b with
          | some first, some second => compare first second
          | _, _ => .eq
      else .eq) <|
      (compare (grpc a) (grpc b)).then (compare (profiles.idxOf a) (profiles.idxOf b))

structure OrderedProfiles (ordered : List Text) : Prop where
  perm : ordered.Perm profiles
  sorted : ordered.Pairwise fun a b => compareProfiles profiles delays pinging a b ≠ .gt

def Failed (code : Text) : Prop := delays.lookup code = some .failed
  deriving Decidable

/-- Where nothing measured tells two apart, gRPC comes second, and then the server decides. -/
def Tied (a b : Text) : Prop :=
  (grpc a → grpc b) ∧ (grpc a = grpc b → profiles.idxOf a < profiles.idxOf b)
  deriving Decidable

/-- A test tells two apart where one of them failed, or both answered and one was faster. -/
def Before (a b : Text) : Prop :=
  a ≠ dnsTunnel ∧ (b ≠ dnsTunnel →
    if Failed delays a then Failed delays b ∧ Tied profiles a b
    else Failed delays b ∨
      match milliseconds delays a, milliseconds delays b with
      | some first, some second => first < second ∨ first = second ∧ Tied profiles a b
      | _, _ => Tied profiles a b)

structure TotalOn (compared : Text → Text → Ordering) : Prop where
  swaps : ∀ a ∈ profiles, ∀ b ∈ profiles, compared a b = (compared b a).swap
  tells : ∀ a ∈ profiles, ∀ b ∈ profiles, compared a b = .eq → a = b
  trans : ∀ a ∈ profiles, ∀ b ∈ profiles, ∀ c ∈ profiles,
    compared a b = .lt → compared b c = .lt → compared a c = .lt

/-- No untested profile stands, in the order of the ties, behind one that answered and before
another that was faster. -/
def NoneBetween : Prop :=
  ∀ a ∈ profiles, ∀ b ∈ profiles, ∀ c ∈ profiles,
    a ≠ dnsTunnel → b ≠ dnsTunnel → c ≠ dnsTunnel → Tied profiles a b → Tied profiles b c →
    ¬ Failed delays b → milliseconds delays b = none →
    ∀ first ∈ milliseconds delays a, ∀ second ∈ milliseconds delays c, first ≤ second
  deriving Decidable

/-- The order of the ties as one number. -/
def place (code : Text) : Nat := (if grpc code then profiles.length else 0) + profiles.idxOf code

variable {profiles delays} {a b c : Text}

theorem compare_place (first : a ∈ profiles) (second : b ∈ profiles) :
    (compare (grpc a) (grpc b)).then (compare (profiles.idxOf a) (profiles.idxOf b)) =
      compare (place profiles a) (place profiles b) := by
  have inA := List.idxOf_lt_length_of_mem first
  have inB := List.idxOf_lt_length_of_mem second
  unfold place
  cases grpc a <;> cases grpc b
  · simp
  · exact (Nat.compare_eq_lt.mpr (by simp; omega)).symm
  · exact (Nat.compare_eq_gt.mpr (by simp; omega)).symm
  · simp [compare, compareOfLessAndEq]

theorem tied_iff (first : a ∈ profiles) (second : b ∈ profiles) :
    Tied profiles a b ↔ place profiles a < place profiles b := by
  have inA := List.idxOf_lt_length_of_mem first
  have inB := List.idxOf_lt_length_of_mem second
  unfold Tied place
  cases grpc a <;> cases grpc b <;> simp <;> omega

theorem failed_unanswered (fails : Failed delays a) : milliseconds delays a = none := by
  unfold Failed at fails
  simp [milliseconds, fails, ProtocolDelay.milliseconds]

theorem place_inj (first : a ∈ profiles) (second : b ∈ profiles)
    (same : place profiles a = place profiles b) : a = b := by
  have inA := List.idxOf_lt_length_of_mem first
  have inB := List.idxOf_lt_length_of_mem second
  refine (List.idxOf_inj first).mp ?_
  unfold place at same
  split at same <;> split at same <;> omega

theorem lt_iff_before (first : a ∈ profiles) (second : b ∈ profiles) :
    compareProfiles profiles delays false a b = .lt ↔ Before profiles delays a b := by
  unfold compareProfiles Before
  rw [compare_place first second, tied_iff first second]
  cases dnsA : a == dnsTunnel <;> cases dnsB : b == dnsTunnel
  · have others : a ≠ dnsTunnel ∧ b ≠ dnsTunnel := by simpa using And.intro dnsA dnsB
    have unA := @failed_unanswered delays a
    have unB := @failed_unanswered delays b
    by_cases empty : delays = []
    · subst empty
      simp [others, milliseconds, Failed, Nat.compare_eq_lt]
    · have ranks code : rank delays false code = if Failed delays code then 1 else 0 := rfl
      simp only [ranks]
      by_cases failsA : Failed delays a <;> by_cases failsB : Failed delays b <;>
        cases ansA : milliseconds delays a <;> cases ansB : milliseconds delays b <;>
        simp_all [Nat.compare_eq_lt, Ordering.then_eq_lt]
  · exact iff_of_true rfl ⟨by simpa using dnsA, fun other => absurd (eq_of_beq dnsB) other⟩
  · exact iff_of_false nofun fun before => before.1 (eq_of_beq dnsA)
  · rw [eq_of_beq dnsA, eq_of_beq dnsB]
    cases milliseconds delays dnsTunnel <;> simp

theorem before_trans (between : NoneBetween profiles delays) (first : a ∈ profiles)
    (second : b ∈ profiles) (third : c ∈ profiles) (ab : Before profiles delays a b)
    (bc : Before profiles delays b c) : Before profiles delays a c := by
  have unA := @failed_unanswered delays a
  have unB := @failed_unanswered delays b
  have unC := @failed_unanswered delays c
  have abc := between a first b second c third
  have bca := between b second c third a first
  have cab := between c third a first b second
  have apart := place_inj first third
  simp only [Before, tied_iff first second, tied_iff second third, tied_iff first third,
    tied_iff third first, Option.mem_def] at ab bc abc bca cab ⊢
  cases ansA : milliseconds delays a <;> cases ansB : milliseconds delays b <;>
    cases ansC : milliseconds delays c <;>
    grind

theorem compareProfiles_swap (a b : Text) : compareProfiles profiles delays false a b =
    (compareProfiles profiles delays false b a).swap := by
  simp only [compareProfiles, Ordering.swap_then, apply_ite Ordering.swap, ← OrientedCmp.eq_swap]
  cases milliseconds delays a <;> cases milliseconds delays b <;>
    simp [← OrientedCmp.eq_swap]

theorem eq_of_compareProfiles (first : a ∈ profiles)
    (equal : compareProfiles profiles delays false a b = .eq) : a = b := by
  simp only [compareProfiles, Ordering.then_eq_eq, Nat.compare_eq_eq] at equal
  exact (List.idxOf_inj first).mp equal.2.2.2

theorem finished_test_orders (distinct : profiles.Nodup) :
    (TotalOn profiles (compareProfiles profiles delays false) ∧
      ∀ ordered, OrderedProfiles profiles delays false ordered →
        ordered.Pairwise (Before profiles delays)) ↔ NoneBetween profiles delays := by
  constructor
  · rintro ⟨total, -⟩ a first b second c third otherA otherB otherC ab bc passed unanswered
      x answerA y answerC
    rw [Option.mem_def] at answerA answerC
    have before := total.trans a first b second c third
    have passedA := mt (@failed_unanswered delays a) (by simp [answerA])
    have passedC := mt (@failed_unanswered delays c) (by simp [answerC])
    simp [lt_iff_before, first, second, third, Before, otherA, otherB, otherC, ab, bc, passed,
      passedA, passedC, unanswered, answerA, answerC] at before
    omega
  · intro between
    refine ⟨⟨?_, ?_, ?_⟩, ?_⟩
    · exact fun a _ b _ => compareProfiles_swap a b
    · exact fun a first b _ => eq_of_compareProfiles first
    · intro a first b second c third ab bc
      rw [lt_iff_before first second] at ab
      rw [lt_iff_before second third] at bc
      exact (lt_iff_before first third).mpr (before_trans between first second third ab bc)
    · intro ordered found
      have nodup := found.perm.nodup_iff.mpr distinct
      refine (found.sorted.and nodup).imp_of_mem fun inA inB ⟨notGreater, different⟩ => ?_
      have first := found.perm.subset inA
      refine (lt_iff_before first (found.perm.subset inB)).mp ?_
      cases compared : compareProfiles profiles delays false _ _ with
      | lt => rfl
      | eq => exact absurd (eq_of_compareProfiles first compared) different
      | gt => exact absurd compared notGreater

def secondUntested : List (Text × ProtocolDelay) :=
  [("a".toList, .measured 50), ("grpc".toList, .measured 90), ("c".toList, .failed)]

theorem finished_test_orders_mixed :
    ["a".toList, "b".toList, "grpc".toList, "c".toList].Pairwise
      (Before ["c".toList, "a".toList, "b".toList, "grpc".toList] secondUntested) :=
  ((finished_test_orders (by decide)).mpr (by decide +kernel)).2 _
    ⟨by decide, by simp [secondUntested, compareProfiles]; decide⟩

/-- The untested second profile keeps the server's order, against the delays of the other two. -/
theorem untested_in_a_circle :
    let less a b := compareProfiles ["a".toList, "b".toList, "c".toList]
      [("a".toList, .measured 90), ("c".toList, .measured 50)] false [a] [b] = .lt
    less 'a' 'b' ∧ less 'b' 'c' ∧ less 'c' 'a' := by
  decide

end Nebula.Mobile.ProfileOrder
