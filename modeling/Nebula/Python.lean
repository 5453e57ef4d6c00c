import Nebula.JsonReader

/-!
# Texts as Python has them

`str.strip`, `str.lower` and `str.replace`, `int` in base 16, `uuid.UUID` and its text. The
character tables differ between versions of Python: of characters outside ASCII they are parameters.
-/

namespace Nebula.Python

open Json List

def isSpace (char : Char) : Bool :=
  decide (char.toNat ∈ [0x09, 0x0A, 0x0B, 0x0C, 0x0D, 0x1C, 0x1D, 0x1E, 0x1F, 0x20, 0x85, 0xA0,
    0x1680, 0x2000, 0x2001, 0x2002, 0x2003, 0x2004, 0x2005, 0x2006, 0x2007, 0x2008, 0x2009,
    0x200A, 0x2028, 0x2029, 0x202F, 0x205F, 0x3000])

def stripOf (off : Char → Bool) (text : Text) : Text :=
  ((text.dropWhile off).reverse.dropWhile off).reverse

def strip (text : Text) : Text :=
  stripOf isSpace text

/-- The lower case of a character at a place in a text, and the value of a decimal digit. -/
structure Unicode where
  lower : Text → Nat → { char : Char // 128 ≤ char.toNat }
  decimal : Char → Option (Fin 10)

instance : Inhabited Unicode :=
  ⟨⟨fun _ _ => ⟨'\uFFFD', by decide⟩, fun _ => none⟩⟩

section

variable (unicode : Unicode)

/-- Only the Kelvin sign and the dotted I have lower cases with ASCII in them. -/
def lowerAt (text : Text) (char : Char) (place : Nat) : Text :=
  if char.toNat < 128 then [char.toLower]
  else if char = '\u212A' then ['k']
  else if char = '\u0130' then ['i', '\u0307']
  else [(unicode.lower text place).1]

def lower (text : Text) : Text :=
  text.zipIdx.flatMap fun (char, place) => lowerAt unicode text char place

def digitValue (char : Char) : Option Nat :=
  if char.toNat < 128 then hexValue char else (unicode.decimal char).map (·.val)

/-- Digits, with single underscores between them. -/
def digits (value : Nat) (between : Bool) : Text → Option Nat
  | [] => if between then some value else none
  | '_' :: rest => if between then digits value false rest else none
  | char :: rest =>
    (digitValue unicode char).bind fun digit => digits (16 * value + digit) true rest

/-- `int(text, 16)` -/
def int16 (text : Text) : Option Int :=
  let unsigned : Text → Option Nat
    | '0' :: 'x' :: '_' :: rest | '0' :: 'X' :: '_' :: rest
    | '0' :: 'x' :: rest | '0' :: 'X' :: rest => digits unicode 0 false rest
    | rest => digits unicode 0 false rest
  match strip text with
  | '-' :: rest => (unsigned rest).map fun value => -(value : Int)
  | '+' :: rest => (unsigned rest).map Int.ofNat
  | rest => (unsigned rest).map Int.ofNat

/-- `text.replace(word, "")`, past the first characters. -/
def without (word : Text) : Nat → Text → Text
  | _, [] => []
  | past + 1, _ :: rest => without word past rest
  | 0, char :: rest =>
    if word <+: char :: rest then without word (word.length - 1) rest
    else char :: without word 0 rest

def parseUuid (text : Text) : Option Nat :=
  let hex := without "uuid:".toList 0 (without "urn:".toList 0 text)
  let hex := (stripOf (fun char => char == '\x7b' || char == '\x7d') hex).filter (· ≠ '-')
  if hex.length ≠ 32 then none
  else (int16 unicode hex).bind fun value =>
    if 0 ≤ value ∧ value < 2 ^ 128 then some value.toNat else none

def uuidText (id : Nat) : Text :=
  hexDigits 8 (id / 16 ^ 24) ++ '-' :: (hexDigits 4 (id / 16 ^ 20) ++ '-' ::
    (hexDigits 4 (id / 16 ^ 16) ++ '-' :: (hexDigits 4 (id / 16 ^ 12) ++ '-' :: hexDigits 12 id)))

/-! ## Spellings of a UUID -/

def uuidChar (char : Char) : Bool :=
  let code := char.toNat
  decide (code = 45 ∨ 48 ≤ code ∧ code ≤ 57 ∨ 97 ≤ code ∧ code ≤ 102)

theorem uuidText_chars (id : Nat) : ∀ char ∈ uuidText id, uuidChar char := by
  have digits count value := @forall_hexDigits (fun char => uuidChar char) (by decide) count value
  simp only [uuidText, forall_mem_append, forall_mem_cons]
  exact ⟨digits _ _, rfl, digits _ _, rfl, digits _ _, rfl, digits _ _, rfl, digits _ _⟩

theorem toLower_wide {char : Char} (wide : 128 ≤ char.toNat) : char.toLower = char := by
  refine dif_neg ?_
  rintro ⟨-, low⟩
  have small : char.toNat ≤ 90 := low
  omega

/-- What the readers test of a character whose lower case can stand in a UUID. -/
def SpelledChar (char : Char) : Prop :=
  uuidChar char.toLower → char.toNat < 128 ∧ char ≠ 'u' ∧ char ≠ '\x7b' ∧ char ≠ '\x7d' ∧
    (char.toLower = '-' ↔ char = '-') ∧
    (char ≠ '-' → isSpace char = false ∧ char ≠ '+' ∧ char ≠ '_' ∧ char ≠ 'x' ∧ char ≠ 'X' ∧
      hexValue char = hexValue char.toLower ∧ (hexValue char).isSome)
  deriving Decidable

theorem spelledChar (char : Char) : SpelledChar char := by
  intro spelled
  have ascii : char.toNat < 128 := by
    by_contra wide
    rw [toLower_wide (Nat.not_lt.mp wide)] at spelled
    simp only [uuidChar, decide_eq_true_eq] at spelled
    omega
  rw [← Char.ofNat_toNat char] at spelled ⊢
  exact (by decide +kernel : ∀ code : Fin 128, SpelledChar (Char.ofNat code)) ⟨_, ascii⟩ spelled

variable {text : Text}

theorem lower_ascii (ascii : ∀ char ∈ text, char.toNat < 128) :
    lower unicode text = text.map Char.toLower := by
  have each : ∀ pair ∈ text.zipIdx, lowerAt unicode text pair.1 pair.2 = [pair.1.toLower] :=
    fun pair member => if_pos (ascii pair.1 (fst_mem_of_mem_zipIdx member))
  calc lower unicode text = text.zipIdx.map (Char.toLower ∘ Prod.fst) := by
        rw [lower, flatMap_congr each, ← map_eq_flatMap]; rfl
    _ = text.map Char.toLower := by rw [← map_map, zipIdx_map_fst]

theorem lowerAt_mem {char : Char} (member : char ∈ text) :
    ∃ place, lowerAt unicode text char place ⊆ lower unicode text := by
  obtain ⟨place, found⟩ := mem_iff_getElem?.mp member
  exact ⟨place, fun _ inside => mem_flatMap_of_mem (mk_mem_zipIdx_iff_getElem?.mpr found) inside⟩

theorem lower_wide {char : Char} (member : char ∈ text) (wide : 128 ≤ char.toNat) :
    ∃ other ∈ lower unicode text, uuidChar other = false := by
  obtain ⟨place, among⟩ := lowerAt_mem unicode member
  unfold lowerAt at among
  rw [if_neg (Nat.not_lt.mpr wide)] at among
  split at among
  · exact ⟨'k', among (by simp), by decide⟩
  split at among
  · exact ⟨'i', among (by simp), by decide⟩
  · refine ⟨_, among (mem_singleton_self _), ?_⟩
    have wide := (unicode.lower text place).2
    simp only [uuidChar, decide_eq_false_iff_not]
    omega

theorem lower_eq_uuidText {id : Nat} {text : Text} :
    lower unicode text = uuidText id ↔ text.map Char.toLower = uuidText id := by
  by_cases ascii : ∀ char ∈ text, char.toNat < 128
  · rw [lower_ascii unicode ascii]
  · push Not at ascii
    obtain ⟨char, member, wide⟩ := ascii
    refine iff_of_false (fun same => ?_) fun same => ?_
    · obtain ⟨other, found, foreign⟩ := lower_wide unicode member wide
      rw [same] at found
      simp [uuidText_chars id other found] at foreign
    · have found := uuidText_chars id char.toLower (same ▸ mem_map_of_mem member)
      have := (spelledChar char found).1
      omega

theorem lower_ne_nil (given : text ≠ []) : lower unicode text ≠ [] := by
  obtain ⟨char, member⟩ := exists_mem_of_ne_nil text given
  obtain ⟨place, among⟩ := lowerAt_mem unicode member
  intro nothing
  rw [nothing, subset_nil] at among
  unfold lowerAt at among
  grind

theorem hexDigits_add (first second value : Nat) :
    hexDigits (first + second) value =
      hexDigits first (value / 16 ^ second) ++ hexDigits second value := by
  induction second generalizing value with
  | zero => simp [hexDigits]
  | succ second ih =>
    rw [← Nat.add_assoc, hexDigits, ih, Nat.div_div_eq_div_mul, ← Nat.pow_succ', hexDigits,
      append_assoc]

theorem uuidText_filter (id : Nat) : (uuidText id).filter (· ≠ '-') = hexDigits 32 id := by
  have digits count value : (hexDigits count value).filter (· ≠ '-') = hexDigits count value :=
    filter_eq_self.mpr (forall_hexDigits (by decide) count value)
  have minus rest : filter (· ≠ '-') ('-' :: rest) = filter (· ≠ '-') rest :=
    filter_cons_of_neg (by decide)
  simp only [uuidText, filter_append, minus, digits]
  rw [hexDigits_add 8 24, hexDigits_add 4 20, hexDigits_add 4 16, hexDigits_add 4 12]

theorem foldl_hexDigits (count id value : Nat) :
    (hexDigits count id).foldl (fun value char => 16 * value + (hexValue char).getD 0) value =
      value * 16 ^ count + id % 16 ^ count := by
  induction count generalizing id with
  | zero => simp [hexDigits, Nat.mod_one]
  | succ count ih =>
    rw [hexDigits, foldl_append, ih, foldl_cons, foldl_nil, hexValue_hexDigit, Nat.pow_succ,
      Nat.mul_comm (16 ^ count) 16, Nat.mod_mul]
    rw [Option.getD_some, Nat.mul_left_comm]
    omega

theorem digits_spelled (hex : ∀ char ∈ text, uuidChar char.toLower ∧ char ≠ '-')
    (value : Nat) (between : Bool) (given : between ∨ text ≠ []) :
    digits unicode value between text = some ((text.map Char.toLower).foldl
      (fun value char => 16 * value + (hexValue char).getD 0) value) := by
  induction text generalizing value between with
  | nil => simpa [digits] using given
  | cons char rest ih =>
    obtain ⟨⟨spelled, other⟩, hex⟩ := forall_mem_cons.mp hex
    obtain ⟨ascii, -, -, -, -, facts⟩ := spelledChar char spelled
    obtain ⟨-, -, under, -, -, same, valued⟩ := facts other
    obtain ⟨digit, read⟩ := Option.isSome_iff_exists.mp valued
    rw [digits, digitValue, if_pos ascii, read]
    · simp [ih hex, ← same, read]
    · exact under

theorem without_self {first : Char} (word : Text) {text : Text} (absent : first ∉ text) :
    without (first :: word) 0 text = text := by
  induction text with
  | nil => rfl
  | cons char rest ih =>
    rw [mem_cons, not_or] at absent
    rw [without, if_neg fun begins => absent.1 (cons_prefix_cons.mp begins).1, ih absent.2]

theorem strip_self {off : Char → Bool} {text : Text} (kept : ∀ char ∈ text, off char = false) :
    stripOf off text = text := by
  have all (text : Text) (kept : ∀ char ∈ text, off char = false) : text.dropWhile off = text := by
    cases text with
    | nil => rfl
    | cons char rest => exact dropWhile_cons_of_neg (by simp [kept char mem_cons_self])
  rw [stripOf, all text kept, all text.reverse fun char member => kept char (mem_reverse.mp member),
    reverse_reverse]

theorem int16_spelled (hex : ∀ char ∈ text, uuidChar char.toLower ∧ char ≠ '-')
    (long : 2 ≤ text.length) :
    int16 unicode text = some (Int.ofNat ((text.map Char.toLower).foldl
      (fun value char => 16 * value + (hexValue char).getD 0) 0)) := by
  have facts char (member : char ∈ text) :=
    (spelledChar char (hex char member).1).2.2.2.2.2 (hex char member).2
  have read := digits_spelled unicode hex 0 false
  rw [int16, strip, strip_self fun char member => (facts char member).1]
  match text, long with
  | first :: second :: rest, _ =>
    obtain ⟨-, plus, -⟩ := facts first mem_cons_self
    obtain ⟨-, -, -, x, X, -⟩ := facts second (by simp)
    have minus := (hex first mem_cons_self).2
    simp only
    split <;> simp_all

theorem parseUuid_spelled {id : Nat} (small : id < 2 ^ 128) {text : Text}
    (spelled : text.map Char.toLower = uuidText id) : parseUuid unicode text = some id := by
  have each : ∀ char ∈ text, uuidChar char.toLower := fun char member =>
    uuidText_chars id _ (spelled ▸ mem_map_of_mem member)
  have facts char (member : char ∈ text) := spelledChar char (each char member)
  have absent : 'u' ∉ text := fun member => (facts 'u' member).2.1 rfl
  have hex : (text.filter (· ≠ '-')).map Char.toLower = hexDigits 32 id := by
    rw [← uuidText_filter, ← spelled, filter_map]
    congr 1
    exact filter_congr fun char member => by simp [(facts char member).2.2.2.2.1]
  have long : (text.filter (· ≠ '-')).length = 32 := by
    rw [← length_map Char.toLower, hex, hexDigits_length]
  have chars : ∀ char ∈ text.filter (· ≠ '-'), uuidChar char.toLower ∧ char ≠ '-' := by
    simpa using fun char member other => ⟨each char member, other⟩
  simp only [parseUuid]
  rw [show "urn:".toList = 'u' :: _ from rfl, without_self _ absent,
    show "uuid:".toList = 'u' :: _ from rfl, without_self _ absent,
    strip_self fun char member => by simp [facts char member]]
  have value : 0 * 16 ^ 32 + id % 16 ^ 32 = id := by
    rw [Nat.zero_mul, Nat.zero_add, Nat.mod_eq_of_lt (by omega)]
  have bounds : 0 ≤ Int.ofNat id ∧ Int.ofNat id < 2 ^ 128 :=
    ⟨Int.natCast_nonneg id, by rw [Int.ofNat_eq_natCast]; exact_mod_cast small⟩
  rw [if_neg (not_not.mpr long), int16_spelled unicode chars (by omega), hex, foldl_hexDigits,
    value, Option.bind_some, if_pos bounds]
  rfl

end

end Nebula.Python
