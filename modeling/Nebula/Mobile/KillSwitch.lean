import Mathlib.Data.List.Basic

/-!
# What the Windows kill switch blocks

`windowsKillSwitchBlockedIpv4`. The text of an address stands for its octets, and that of a
range for its two ends.
-/

namespace Nebula.Mobile.KillSwitch

open List

abbrev Range := Nat × Nat

def Range.Has (range : Range) (address : Nat) : Prop := range.1 ≤ address ∧ address ≤ range.2
  deriving Decidable

def parse (octets : List Nat) : Nat := octets.foldl (fun value octet => value <<< 8 ||| octet) 0

def shown (value : Nat) : List Nat :=
  [value >>> 24 &&& 255, value >>> 16 &&& 255, value >>> 8 &&& 255, value &&& 255]

def cidr (network : List Nat) (bits : Nat) : Range :=
  (parse network, parse network + 1 <<< (32 - bits) - 1)

/-- This network, the local network, loopback, link-local, multicast and broadcast. -/
def localRanges : List Range :=
  [cidr [0, 0, 0, 0] 8, cidr [10, 0, 0, 0] 8, cidr [127, 0, 0, 0] 8, cidr [169, 254, 0, 0] 16,
    cidr [172, 16, 0, 0] 12, cidr [192, 168, 0, 0] 16, cidr [224, 0, 0, 0] 4,
    cidr [255, 255, 255, 255] 32]

def allowed (upstream : List Nat) : List Range := (parse upstream, parse upstream) :: localRanges

def blocked (next : Nat) : List Range → List Range
  | [] => if next ≤ 0xFFFFFFFF then [(next, 0xFFFFFFFF)] else []
  | (start, stop) :: rest =>
    (if start > next then [(next, start - 1)] else []) ++
      blocked (if stop + 1 > next then stop + 1 else next) rest

/-- `List.sort` is not stable: ranges that start together may come in either order. -/
structure Sorted (upstream : List Nat) (ranges : List Range) : Prop where
  perm : ranges.Perm (allowed upstream)
  ordered : ranges.Pairwise fun first second => first.1 ≤ second.1

def windowsKillSwitchBlockedIpv4 (ranges : List Range) : List (List Nat × List Nat) :=
  (blocked 0 ranges).map (Prod.map shown shown)

variable {next : Nat} {ranges : List Range}

theorem blocked_spec (sorted : ranges.Pairwise fun first second => first.1 ≤ second.1)
    (inside : ∀ range ∈ ranges, range.1 ≤ range.2 ∧ range.2 ≤ 0xFFFFFFFF) :
    (∀ range ∈ blocked next ranges, next ≤ range.1 ∧ range.1 ≤ range.2 ∧ range.2 ≤ 0xFFFFFFFF) ∧
    (blocked next ranges).Pairwise (fun first second => first.2 < second.1) ∧
    ∀ address ≤ 0xFFFFFFFF, (∃ range ∈ blocked next ranges, range.Has address) ↔
      next ≤ address ∧ ∀ range ∈ ranges, ¬ range.Has address := by
  induction ranges generalizing next with
  | nil =>
    unfold blocked
    split <;> simp [Range.Has] <;> grind
  | cons head rest ih =>
    obtain ⟨start, stop⟩ := head
    obtain ⟨first, sorted⟩ := pairwise_cons.mp sorted
    have own := inside (start, stop) mem_cons_self
    generalize following : (if stop + 1 > next then stop + 1 else next) = after
    have after_ge : next ≤ after ∧ stop < after ∧ (after = next ∨ after = stop + 1) := by
      split at following <;> omega
    obtain ⟨bounds, apart, covers⟩ :=
      @ih after sorted fun range member => inside range (mem_cons_of_mem _ member)
    have later : ∀ address < start, ∀ range ∈ rest, ¬ range.Has address := by
      intro address small range member has
      have := first range member
      have := has.1
      omega
    simp only [blocked, following]
    refine ⟨?_, pairwise_append.mpr ⟨by split <;> simp, apart, ?_⟩, ?_⟩
    · intro range member
      rcases mem_append.mp member with new | old
      · split at new <;> simp_all
        omega
      · have := bounds range old
        omega
    · intro range new other old
      have := bounds other old
      split at new <;> simp_all
      omega
    · intro address small
      simp only [mem_append, or_and_right, exists_or, covers address small, forall_mem_cons]
      split <;> simp [Range.Has] <;> grind [Range.Has]

theorem parse_octets {a b c d : Nat} (octets : ∀ octet ∈ [a, b, c, d], octet < 256) :
    parse [a, b, c, d] = ((a * 256 + b) * 256 + c) * 256 + d := by
  simp only [forall_mem_cons] at octets
  obtain ⟨ha, hb, hc, hd, -⟩ := octets
  simp only [parse, foldl_cons, foldl_nil]
  rw [← Nat.shiftLeft_add_eq_or_of_lt (i := 8) hd, ← Nat.shiftLeft_add_eq_or_of_lt (i := 8) hc,
    ← Nat.shiftLeft_add_eq_or_of_lt (i := 8) hb, ← Nat.shiftLeft_add_eq_or_of_lt (i := 8) ha]
  simp only [Nat.shiftLeft_eq]
  omega

theorem parse_shown {value : Nat} (small : value ≤ 0xFFFFFFFF) : parse (shown value) = value := by
  have octet : ∀ value : Nat, value &&& 255 = value % 256 :=
    fun value => Nat.and_two_pow_sub_one_eq_mod value 8
  simp only [shown, octet, Nat.shiftRight_eq_div_pow]
  rw [parse_octets (by simp; omega)]
  omega

theorem kill_switch_blocks_the_rest {a b c d : Nat}
    (octets : ∀ octet ∈ [a, b, c, d], octet < 256) (sorted : Sorted [a, b, c, d] ranges) :
    let written := (windowsKillSwitchBlockedIpv4 ranges).map (Prod.map parse parse)
    (∀ range ∈ written, range.1 ≤ range.2) ∧
    written.Pairwise (fun first second => first.2 < second.1) ∧
    ∀ address ≤ 0xFFFFFFFF, (∃ range ∈ written, Range.Has range address) ↔
      address ≠ parse [a, b, c, d] ∧ ∀ range ∈ localRanges, ¬ range.Has address := by
  intro written
  have small : parse [a, b, c, d] ≤ 0xFFFFFFFF := by
    rw [parse_octets octets]
    simp only [forall_mem_cons] at octets
    omega
  have inside : ∀ range ∈ ranges, range.1 ≤ range.2 ∧ range.2 ≤ 0xFFFFFFFF := by
    intro range member
    rcases mem_cons.mp (sorted.perm.subset member) with own | other
    · simpa [own] using small
    · exact (by decide : ∀ range ∈ localRanges, range.1 ≤ range.2 ∧ range.2 ≤ 0xFFFFFFFF)
        range other
  obtain ⟨bounds, apart, covers⟩ := @blocked_spec 0 ranges sorted.ordered inside
  have read : written = blocked 0 ranges := by
    simp only [written, windowsKillSwitchBlockedIpv4, map_map]
    refine (map_congr_left fun range member => ?_).trans (map_id _)
    have := bounds range member
    exact Prod.ext (parse_shown (by omega)) (parse_shown (by omega))
  rw [read]
  refine ⟨fun range member => (bounds range member).2.1, apart, fun address below => ?_⟩
  rw [covers address below]
  simp only [sorted.perm.mem_iff, allowed, forall_mem_cons, Range.Has]
  grind

def publicServer : List Range :=
  localRanges.take 6 ++ (parse [203, 0, 113, 9], parse [203, 0, 113, 9]) :: localRanges.drop 6

theorem kill_switch_blocks_the_rest_public :
    ∃ range ∈ (windowsKillSwitchBlockedIpv4 publicServer).map (Prod.map parse parse),
      Range.Has range (parse [203, 0, 113, 10]) :=
  ((@kill_switch_blocks_the_rest publicServer 203 0 113 9 (by decide) ⟨by decide, by decide⟩).2.2 _
    (by decide)).mpr (by decide)

end Nebula.Mobile.KillSwitch
