import Mathlib.Algebra.BigOperators.Group.List.Basic
import Mathlib.Algebra.Ring.Nat
import Mathlib.Data.List.Basic

/-!
# The text of a JSON value

Strings, arrays and objects as a JSON writer puts them down, over the separators it is
set to, and the number of bytes the text takes in UTF-8. The size of a compound value is
the size of its parts and of what stands between them.
-/

namespace Nebula.Json

open List

abbrev Text := List Char

def byteSize (text : Text) : Nat :=
  (text.map Char.utf8Size).sum

structure Separators where
  item : Text
  key : Text

def Separators.compact : Separators :=
  ⟨[','], [':']⟩

def hexDigit (value : Nat) : Char :=
  if value % 16 < 10 then Char.ofNat (48 + value % 16) else Char.ofNat (87 + value % 16)

def hexDigits : Nat → Nat → Text
  | 0, _ => []
  | count + 1, value => hexDigits count (value / 16) ++ [hexDigit value]

def escape (char : Char) : Text :=
  if char = '\x22' then ['\x5c', '\x22']
  else if char = '\x5c' then ['\x5c', '\x5c']
  else if char = '\x08' then ['\x5c', 'b']
  else if char = '\x09' then ['\x5c', 't']
  else if char = '\x0a' then ['\x5c', 'n']
  else if char = '\x0c' then ['\x5c', 'f']
  else if char = '\x0d' then ['\x5c', 'r']
  else if char.toNat < 32 then '\x5c' :: 'u' :: hexDigits 4 char.toNat
  else [char]

def quoted (content : Text) : Text :=
  '\x22' :: (content.flatMap escape ++ ['\x22'])

def joined (separator : Text) : List Text → Text
  | [] => []
  | [last] => last
  | first :: second :: rest => first ++ separator ++ joined separator (second :: rest)

variable (separators : Separators)

def array (items : List Text) : Text :=
  '[' :: (joined separators.item items ++ [']'])

def member (field : Text × Text) : Text :=
  quoted field.1 ++ separators.key ++ field.2

def object (fields : List (Text × Text)) : Text :=
  '\x7b' :: (joined separators.item (fields.map (member separators)) ++ ['\x7d'])

@[simp] theorem byteSize_nil : byteSize [] = 0 :=
  rfl

@[simp] theorem byteSize_cons (char : Char) (rest : Text) :
    byteSize (char :: rest) = char.utf8Size + byteSize rest := by
  simp [byteSize]

@[simp] theorem byteSize_append (first second : Text) :
    byteSize (first ++ second) = byteSize first + byteSize second := by
  simp [byteSize]

theorem byteSize_joined (separator : Text) (parts : List Text) :
    byteSize (joined separator parts) =
      (parts.map byteSize).sum + (parts.length - 1) * byteSize separator := by
  induction parts with
  | nil => simp [joined]
  | cons first rest ih =>
    cases rest with
    | nil => simp [joined]
    | cons second rest =>
      simp only [joined, byteSize_append, ih, map_cons, sum_cons, length_cons, Nat.add_sub_cancel]
      rw [Nat.succ_mul]
      omega

theorem byteSize_array (items : List Text) :
    byteSize (array separators items) =
      2 + (items.map byteSize).sum + (items.length - 1) * byteSize separators.item := by
  have brackets : '['.utf8Size = 1 ∧ ']'.utf8Size = 1 := by decide
  simp only [array, byteSize_cons, byteSize_append, byteSize_nil, byteSize_joined, brackets]
  omega

theorem byteSize_object_pair (first second : Text × Text) :
    byteSize (object separators [first, second]) =
      2 + byteSize (quoted first.1) + byteSize first.2 + byteSize (quoted second.1) +
        byteSize second.2 + byteSize separators.item + 2 * byteSize separators.key := by
  have braces : '\x7b'.utf8Size = 1 ∧ '\x7d'.utf8Size = 1 := by decide
  simp only [object, member, joined, map_cons, map_nil, byteSize_cons, byteSize_append,
    byteSize_nil, braces]
  omega

def plain (char : Char) : Bool :=
  decide (32 ≤ char.toNat ∧ char.toNat < 128) && char != '\x22' && char != '\x5c'

theorem plain_spec {char : Char} (holds : plain char = true) :
    32 ≤ char.toNat ∧ char.toNat < 128 ∧ char ≠ '\x22' ∧ char ≠ '\x5c' := by
  simp only [plain, Bool.and_eq_true, decide_eq_true_eq, bne_iff_ne] at holds
  exact ⟨holds.1.1.1, holds.1.1.2, holds.1.2, holds.2⟩

theorem utf8Size_plain {char : Char} (holds : plain char = true) : char.utf8Size = 1 := by
  obtain ⟨_, small, _⟩ := plain_spec holds
  have bounded : char.val ≤ 0x7F := by
    exact Nat.le_of_lt_succ small
  simp [Char.utf8Size, bounded]

theorem escape_plain {char : Char} (holds : plain char = true) : escape char = [char] := by
  obtain ⟨visible, _, unquoted, unescaped⟩ := plain_spec holds
  have differs : ∀ other : Char, other.toNat < 32 → char ≠ other := by
    intro other control same
    rw [same] at visible
    omega
  simp [escape, unquoted, unescaped, differs '\x08' (by decide), differs '\x09' (by decide),
    differs '\x0a' (by decide), differs '\x0c' (by decide), differs '\x0d' (by decide),
    Nat.not_lt.mpr visible]

theorem byteSize_plain {text : Text} (holds : ∀ char ∈ text, plain char = true) :
    byteSize text = text.length := by
  induction text with
  | nil => rfl
  | cons char rest ih =>
    have size := utf8Size_plain (holds char mem_cons_self)
    have later := ih fun other member => holds other (mem_cons_of_mem _ member)
    rw [byteSize_cons, size, later, length_cons, Nat.add_comm]

theorem byteSize_quoted {text : Text} (holds : ∀ char ∈ text, plain char = true) :
    byteSize (quoted text) = text.length + 2 := by
  have same : text.flatMap escape = text := by
    induction text with
    | nil => rfl
    | cons char rest ih =>
      have later := ih fun other member => holds other (mem_cons_of_mem _ member)
      simp [escape_plain (holds char mem_cons_self), later]
  have quotes : '\x22'.utf8Size = 1 := by decide
  simp only [quoted, same, byteSize_cons, byteSize_append, byteSize_nil, quotes,
    byteSize_plain holds]
  omega

theorem hexDigit_mod (value : Nat) : hexDigit (value % 16) = hexDigit value := by
  simp [hexDigit]

theorem forall_hexDigits {Holds : Char → Prop} (each : ∀ digit < 16, Holds (hexDigit digit))
    (count value : Nat) : ∀ char ∈ hexDigits count value, Holds char := by
  induction count generalizing value with
  | zero => exact forall_mem_nil _
  | succ count ih =>
    have low := each (value % 16) (Nat.mod_lt _ (by decide))
    rw [hexDigit_mod] at low
    exact forall_mem_append.mpr ⟨ih (value / 16), forall_mem_singleton.mpr low⟩

theorem hexDigits_length (count value : Nat) : (hexDigits count value).length = count := by
  induction count generalizing value with
  | zero => rfl
  | succ count ih => simp [hexDigits, ih]

end Nebula.Json
