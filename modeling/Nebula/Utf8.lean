import Nebula.Json

/-!
# UTF-8 read with replacement

The decoder of the Encoding Standard: what is no character becomes U+FFFD.
-/

namespace Nebula.Utf8

open Json List

/-- A character of several bytes of which some are read: how many are still needed, what the others
make, and between which bounds the next one has to lie. -/
structure Pending where
  needed : Nat
  codePoint : Nat
  lower : Nat := 0x80
  upper : Nat := 0xBF

def lead (byte : Nat) : Text × Option Pending :=
  if byte < 0x80 then ([Char.ofNat byte], none)
  else if 0xC2 ≤ byte ∧ byte ≤ 0xDF then ([], some { needed := 1, codePoint := byte - 0xC0 })
  else if 0xE0 ≤ byte ∧ byte ≤ 0xEF then
    ([], some { needed := 2, codePoint := byte - 0xE0,
                lower := if byte = 0xE0 then 0xA0 else 0x80,
                upper := if byte = 0xED then 0x9F else 0xBF })
  else if 0xF0 ≤ byte ∧ byte ≤ 0xF4 then
    ([], some { needed := 3, codePoint := byte - 0xF0,
                lower := if byte = 0xF0 then 0x90 else 0x80,
                upper := if byte = 0xF4 then 0x8F else 0xBF })
  else (['\uFFFD'], none)

/-- A byte that does not continue the character is read again, as the first of another. -/
def utf8 : Option Pending → List UInt8 → Text
  | none, [] => []
  | some _, [] => ['\uFFFD']
  | none, byte :: rest => (lead byte.toNat).1 ++ utf8 (lead byte.toNat).2 rest
  | some pending, byte :: rest =>
    if pending.lower ≤ byte.toNat ∧ byte.toNat ≤ pending.upper then
      let codePoint := 64 * pending.codePoint + (byte.toNat - 0x80)
      if pending.needed = 1 then Char.ofNat codePoint :: utf8 none rest
      else utf8 (some { needed := pending.needed - 1, codePoint }) rest
    else '\uFFFD' :: ((lead byte.toNat).1 ++ utf8 (lead byte.toNat).2 rest)

def Pending.least (pending : Pending) : Nat :=
  (64 * pending.codePoint + (pending.lower - 0x80)) * 64 ^ (pending.needed - 1)

def Pending.beyond (pending : Pending) : Nat :=
  (64 * pending.codePoint + (pending.upper - 0x7F)) * 64 ^ (pending.needed - 1)

/-- Whatever bytes follow, the character it becomes is one that takes several. -/
structure Pending.Valid (pending : Pending) : Prop where
  needed : pending.needed = 1 ∨ pending.needed = 2 ∨ pending.needed = 3
  lower : 0x80 ≤ pending.lower
  wide : 128 ≤ pending.least
  scalar : pending.beyond ≤ 0xD800 ∨ 0xE000 ≤ pending.least ∧ pending.beyond ≤ 0x110000

theorem toNat_ofNat_wide {codePoint : Nat} (wide : 128 ≤ codePoint)
    (scalar : codePoint < 0xD800 ∨ 0xE000 ≤ codePoint ∧ codePoint < 0x110000) :
    128 ≤ (Char.ofNat codePoint).toNat := by
  have valid : codePoint.isValidChar := by
    unfold Nat.isValidChar
    omega
  rwa [Char.ofNat, dif_pos valid]

theorem Pending.Valid.next {pending : Pending} (valid : pending.Valid) {byte : Nat}
    (within : pending.lower ≤ byte ∧ byte ≤ pending.upper) (more : pending.needed ≠ 1) :
    Pending.Valid
      { needed := pending.needed - 1, codePoint := 64 * pending.codePoint + (byte - 0x80) } := by
  obtain ⟨one | two | three, lower, wide, scalar⟩ := valid
  · contradiction
  all_goals
    simp only [least, beyond, *] at wide scalar ⊢
    refine ⟨by simp, le_refl _, ?_, ?_⟩
    all_goals
      simp only [least, beyond] at *
      omega

theorem utf8_pending {pending : Pending} (valid : pending.Valid) (bytes : List UInt8) :
    ∃ char ∈ utf8 (some pending) bytes, 128 ≤ char.toNat := by
  induction bytes generalizing pending with
  | nil => exact ⟨'\uFFFD', by simp [utf8], by decide⟩
  | cons byte rest ih =>
    unfold utf8
    split
    · rename_i within
      split
      · rename_i last
        have ⟨_, lower, wide, scalar⟩ := valid
        simp only [Pending.least, Pending.beyond, last] at wide scalar
        exact ⟨_, mem_cons_self, toNat_ofNat_wide (by omega) (by omega)⟩
      · exact ih (valid.next within ‹_›)
    · exact ⟨'\uFFFD', mem_cons_self, by decide⟩

theorem lead_wide {byte : Nat} (high : 128 ≤ byte) :
    lead byte = (['\uFFFD'], none) ∨ ∃ pending, lead byte = ([], some pending) ∧ pending.Valid := by
  unfold lead
  rw [if_neg (Nat.not_lt.mpr high)]
  repeat' split
  all_goals
    first
    | exact Or.inl rfl
    | refine Or.inr ⟨_, rfl, by simp, ?_, ?_, ?_⟩
      all_goals
        simp only [Pending.least, Pending.beyond]
        grind

theorem utf8_wide {bytes : List UInt8} {byte : UInt8} (member : byte ∈ bytes)
    (high : 128 ≤ byte.toNat) : ∃ char ∈ utf8 none bytes, 128 ≤ char.toNat := by
  induction bytes with
  | nil => cases member
  | cons first rest ih =>
    unfold utf8
    by_cases low : first.toNat < 128
    · have plain : lead first.toNat = ([Char.ofNat first.toNat], none) := if_pos low
      obtain ⟨char, found, wide⟩ := ih ((mem_cons.mp member).resolve_left (by grind))
      exact ⟨char, by simp [plain, found], wide⟩
    · rcases lead_wide (Nat.not_lt.mp low) with lost | ⟨pending, begun, valid⟩
      · exact ⟨'\uFFFD', by simp [lost], by decide⟩
      · obtain ⟨char, found, wide⟩ := utf8_pending valid rest
        exact ⟨char, by simp [begun, found], wide⟩

theorem utf8_ascii {bytes : List UInt8} (narrow : ∀ byte ∈ bytes, byte.toNat < 128) :
    utf8 none bytes = bytes.map fun byte => Char.ofNat byte.toNat := by
  induction bytes with
  | nil => rfl
  | cons byte rest ih =>
    have plain : lead byte.toNat = ([Char.ofNat byte.toNat], none) :=
      if_pos (narrow byte mem_cons_self)
    simp [utf8, plain, ih fun byte member => narrow byte (mem_cons_of_mem _ member)]

end Nebula.Utf8
