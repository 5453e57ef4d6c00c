import Nebula.Json

/-!
# Flat JSON objects, written in ASCII and read back

An object whose values are strings and integers, written with everything outside printable ASCII
escaped, and a machine that reads such a text one character at a time. It ends in a state that has
seen the closing brace exactly on whole objects, so no proper beginning of an object is an object.
-/

namespace Nebula.Json

open List Option

variable (char : Char)

def units : List Nat :=
  if char.toNat < 0x10000 then [char.toNat]
  else [0xD800 + (char.toNat - 0x10000) / 0x400, 0xDC00 + (char.toNat - 0x10000) % 0x400]

def unicodeEscape (unit : Nat) : Text :=
  '\x5c' :: 'u' :: hexDigits 4 unit

def shortEscapes : List (Char × Char) :=
  [('\x22', '\x22'), ('\x5c', '\x5c'), ('\x08', 'b'), ('\x09', 't'), ('\x0a', 'n'),
    ('\x0c', 'f'), ('\x0d', 'r')]

def shortEscape : Option Char :=
  (shortEscapes.find? fun entry => decide (entry.1 = char)).map Prod.snd

def escapeAscii : Text :=
  match shortEscape char with
  | some letter => ['\x5c', letter]
  | none =>
    if 32 ≤ char.toNat ∧ char.toNat < 127 then [char] else (units char).flatMap unicodeEscape

def quotedAscii (content : Text) : Text :=
  '\x22' :: (content.flatMap escapeAscii ++ ['\x22'])

def decimal (value : Int) : Text :=
  if value < 0 then '-' :: Nat.toDigits 10 value.natAbs else Nat.toDigits 10 value.natAbs

inductive FlatValue where
  | text (content : Text)
  | int (value : Int)

abbrev Fields := List (Text × FlatValue)

def FlatValue.written : FlatValue → Text
  | .text content => quotedAscii content
  | .int value => decimal value

def writtenField (field : Text × FlatValue) : Text :=
  quotedAscii field.1 ++ [':', ' '] ++ field.2.written

def writtenObject (fields : Fields) : Text :=
  '\x7b' :: (joined [',', ' '] (fields.map writtenField) ++ ['\x7d'])

/-! ## Reading a string -/

def hexValue : Option Nat :=
  if '0' ≤ char ∧ char ≤ '9' then some (char.toNat - 48)
  else if 'a' ≤ char ∧ char ≤ 'f' then some (char.toNat - 87)
  else if 'A' ≤ char ∧ char ≤ 'F' then some (char.toNat - 55)
  else none

def unescape (letter : Char) : Option Nat :=
  ((('/', '/') :: shortEscapes).find? fun entry => decide (entry.2 = letter)).map
    fun entry => entry.1.toNat

inductive Escape where
  | no
  | begun
  | hex (left value : Nat)
  deriving DecidableEq

structure Scan where
  units : List Nat
  escape : Escape

def Scan.begun : Scan :=
  ⟨[], .no⟩

def Scan.closes (scan : Scan) (char : Char) : Bool :=
  decide (scan.escape = .no) && decide (char = '\x22')

def Scan.feed (scan : Scan) (char : Char) : Option Scan :=
  match scan.escape with
  | .no =>
    if char = '\x5c' then some { scan with escape := .begun }
    else if char.toNat < 32 then none
    else some { scan with units := scan.units ++ [char.toNat] }
  | .begun =>
    if char = 'u' then some { scan with escape := .hex 4 0 }
    else (unescape char).map fun unit => ⟨scan.units ++ [unit], .no⟩
  | .hex left value =>
    (hexValue char).map fun digit =>
      if left ≤ 1 then ⟨scan.units ++ [value * 16 + digit], .no⟩
      else { scan with escape := .hex (left - 1) (value * 16 + digit) }

def isHigh (unit : Nat) : Bool :=
  decide (0xD800 ≤ unit ∧ unit < 0xDC00)

def isLow (unit : Nat) : Bool :=
  decide (0xDC00 ≤ unit ∧ unit < 0xE000)

def fromUnits : List Nat → Option Text
  | [] => some []
  | [unit] => if isHigh unit || isLow unit then none else some [Char.ofNat unit]
  | high :: low :: rest =>
    if isHigh high && isLow low then
      (fromUnits rest).map (Char.ofNat (0x10000 + (high - 0xD800) * 0x400 + (low - 0xDC00)) :: ·)
    else if isHigh high || isLow high then none
    else (fromUnits (low :: rest)).map (Char.ofNat high :: ·)

/-! ## Reading an object -/

inductive Reader where
  | start
  | opened
  | key (fields : Fields) (scan : Scan)
  | keyed (fields : Fields) (name : Text)
  | colon (fields : Fields) (name : Text)
  | text (fields : Fields) (name : Text) (scan : Scan)
  | number (fields : Fields) (name : Text) (negative : Bool) (digits : Text)
  | valued (fields : Fields)
  | comma (fields : Fields)
  | closed (fields : Fields)

def isBlank : Bool :=
  decide (char = ' ' ∨ char = '\x09' ∨ char = '\x0a' ∨ char = '\x0d')

def finishNumber (negative : Bool) (digits : Text) : Option Int :=
  match digits with
  | [] => none
  | '0' :: _ :: _ => none
  | _ :: _ =>
    some (if negative then -(Nat.ofDigitChars 10 digits 0 : Int)
      else (Nat.ofDigitChars 10 digits 0 : Int))

def afterValue (fields : Fields) (char : Char) : Option Reader :=
  if isBlank char then some (.valued fields)
  else if char = ',' then some (.comma fields)
  else if char = '\x7d' then some (.closed fields)
  else none

def Reader.feed (reader : Reader) (char : Char) : Option Reader :=
  match reader with
  | .start =>
    if isBlank char then some .start
    else if char = '\x7b' then some .opened
    else none
  | .opened =>
    if isBlank char then some .opened
    else if char = '\x22' then some (.key [] .begun)
    else if char = '\x7d' then some (.closed [])
    else none
  | .key fields scan =>
    if scan.closes char then (fromUnits scan.units).map (.keyed fields)
    else (scan.feed char).map (.key fields)
  | .keyed fields name =>
    if isBlank char then some (.keyed fields name)
    else if char = ':' then some (.colon fields name)
    else none
  | .colon fields name =>
    if isBlank char then some (.colon fields name)
    else if char = '\x22' then some (.text fields name .begun)
    else if char = '-' then some (.number fields name true [])
    else if char.isDigit then some (.number fields name false [char])
    else none
  | .text fields name scan =>
    if scan.closes char then
      (fromUnits scan.units).map fun content => .valued (fields ++ [(name, .text content)])
    else (scan.feed char).map (.text fields name)
  | .number fields name negative digits =>
    if char.isDigit then some (.number fields name negative (digits ++ [char]))
    else
      (finishNumber negative digits).bind fun value =>
        afterValue (fields ++ [(name, .int value)]) char
  | .valued fields => afterValue fields char
  | .comma fields =>
    if isBlank char then some (.comma fields)
    else if char = '\x22' then some (.key fields .begun)
    else none
  | .closed fields => if isBlank char then some (.closed fields) else none

def Reader.run (reader : Reader) (text : Text) : Option Reader :=
  text.foldlM Reader.feed reader

def readObject (text : Text) : Option Fields :=
  match Reader.start.run text with
  | some (.closed fields) => some fields
  | _ => none

/-! ## What is written is read -/

section

def Scan.take (scan : Scan) (char : Char) : Option Scan :=
  if scan.closes char then none else scan.feed char

theorem char_toNat (char : Char) :
    char.toNat < 0xD800 ∨ 0xDFFF < char.toNat ∧ char.toNat < 0x110000 :=
  char.valid

theorem hexValue_hexDigit (value : Nat) : hexValue (hexDigit value) = some (value % 16) := by
  have digits : ∀ digit < 16, hexValue (hexDigit digit) = some digit := by decide
  rw [← hexDigit_mod]
  exact digits (value % 16) (Nat.mod_lt _ (by decide))

theorem units_small {char : Char} : ∀ unit ∈ units char, unit < 0x10000 := by
  intro unit member
  have valid := char_toNat char
  unfold units at member
  split at member
  · rw [mem_singleton] at member
    omega
  rcases mem_cons.mp member with high | low
  · omega
  · rw [mem_singleton] at low
    omega

variable (before : List Nat)

theorem take_unicodeEscape {unit : Nat} (small : unit < 0x10000) :
    (unicodeEscape unit).foldlM Scan.take ⟨before, .no⟩ = some ⟨before ++ [unit], .no⟩ := by
  have digits : hexDigits 4 unit = [hexDigit (unit / 16 / 16 / 16), hexDigit (unit / 16 / 16),
      hexDigit (unit / 16), hexDigit unit] := rfl
  simp [unicodeEscape, digits, Scan.take, Scan.closes, Scan.feed, hexValue_hexDigit]
  omega

theorem take_flatMap {Piece : Type} {write : Piece → Text} {read : Piece → List Nat}
    (pieces : List Piece) (each : ∀ piece ∈ pieces, ∀ before,
      (write piece).foldlM Scan.take ⟨before, .no⟩ = some ⟨before ++ read piece, .no⟩)
    (before : List Nat) :
    (pieces.flatMap write).foldlM Scan.take ⟨before, .no⟩ =
      some ⟨before ++ pieces.flatMap read, .no⟩ := by
  induction pieces generalizing before with
  | nil => simp
  | cons piece rest ih =>
    obtain ⟨first, others⟩ := forall_mem_cons.mp each
    rw [flatMap_cons, foldlM_append, first]
    simpa using ih others (before ++ read piece)

theorem take_escapeAscii (char : Char) :
    (escapeAscii char).foldlM Scan.take ⟨before, .no⟩ = some ⟨before ++ units char, .no⟩ := by
  unfold escapeAscii
  cases short : shortEscape char with
  | some letter =>
    obtain ⟨read, other, single⟩ : unescape letter = some char.toNat ∧ letter ≠ 'u' ∧ units char =
        [char.toNat] := by
      have table : ∀ entry ∈ shortEscapes, unescape entry.2 = some entry.1.toNat ∧
          entry.2 ≠ 'u' ∧ units entry.1 = [entry.1.toNat] := by
        decide
      obtain ⟨entry, found, named⟩ := map_eq_some_iff.mp short
      have same : entry.1 = char := by simpa using find?_some found
      rw [← same, ← named]
      exact table entry (mem_of_find?_eq_some found)
    simp [Scan.take, Scan.closes, Scan.feed, read, other, single]
  | none =>
    simp only
    split
    · rename_i printable
      have unquoted : char ≠ '\x22' := by
        rintro rfl
        revert short
        decide
      have unescaped : char ≠ '\x5c' := by
        rintro rfl
        revert short
        decide
      have single : units char = [char.toNat] := by
        simp [units, show char.toNat < 0x10000 by omega]
      simp [Scan.take, Scan.closes, Scan.feed, unquoted, unescaped, single,
        Nat.not_lt.mpr printable.1]
    · have written := take_flatMap (units char)
        (fun unit member before => take_unicodeEscape before (units_small unit member))
        before
      simpa using written

theorem take_content (content : Text) :
    (content.flatMap escapeAscii).foldlM Scan.take ⟨before, .no⟩ =
      some ⟨before ++ content.flatMap units, .no⟩ :=
  take_flatMap content (fun char _ before => take_escapeAscii before char) before

theorem fromUnits_cons {unit : Nat} (rest : List Nat) (high : isHigh unit = false)
    (low : isLow unit = false) :
    fromUnits (unit :: rest) = (fromUnits rest).map (Char.ofNat unit :: ·) := by
  cases rest with
  | nil | cons => simp [fromUnits, high, low]

theorem fromUnits_units (char : Char) (rest : List Nat) :
    fromUnits (units char ++ rest) = (fromUnits rest).map (char :: ·) := by
  have valid := char_toNat char
  by_cases basic : char.toNat < 0x10000
  · have high : isHigh char.toNat = false := by
      simp only [isHigh, decide_eq_false_iff_not]
      omega
    have low : isLow char.toNat = false := by
      simp only [isLow, decide_eq_false_iff_not]
      omega
    have single : units char = [char.toNat] := by simp [units, basic]
    rw [single, singleton_append, fromUnits_cons rest high low, Char.ofNat_toNat]
  · have pair : units char = [0xD800 + (char.toNat - 0x10000) / 0x400,
        0xDC00 + (char.toNat - 0x10000) % 0x400] := by
      simp [units, basic]
    have high : isHigh (0xD800 + (char.toNat - 0x10000) / 0x400) = true := by
      simp only [isHigh, decide_eq_true_eq]
      omega
    have low : isLow (0xDC00 + (char.toNat - 0x10000) % 0x400) = true := by
      simp only [isLow, decide_eq_true_eq]
      omega
    have whole : 0x10000 + (0xD800 + (char.toNat - 0x10000) / 0x400 - 0xD800) * 0x400 +
        (0xDC00 + (char.toNat - 0x10000) % 0x400 - 0xDC00) = char.toNat := by
      omega
    rw [pair]
    simp only [cons_append, nil_append, fromUnits, high, low, Bool.and_self, if_true,
      whole, Char.ofNat_toNat]

theorem fromUnits_content (content : Text) : fromUnits (content.flatMap units) = some content := by
  induction content with
  | nil => rfl
  | cons char rest ih => rw [flatMap_cons, fromUnits_units, ih, map_some]

end

section

variable (reader : Reader)

theorem run_append (first second : Text) :
    reader.run (first ++ second) = (reader.run first).bind fun middle => middle.run second := by
  simp [Reader.run, foldlM_append, bind_eq_bind]

theorem run_cons (char : Char) (rest : Text) :
    reader.run (char :: rest) = (reader.feed char).bind fun next => next.run rest := by
  simp [Reader.run, foldlM_cons, bind_eq_bind]

@[simp] theorem run_nil (reader : Reader) : reader.run [] = some reader :=
  rfl

theorem run_scanning {state : Scan → Reader}
    (reads : ∀ scan char, scan.closes char = false →
      (state scan).feed char = (scan.feed char).map state)
    {text : Text} (scan final : Scan) (scanned : text.foldlM Scan.take scan = some final) :
    (state scan).run text = some (state final) := by
  induction text generalizing scan with
  | nil =>
    cases scanned
    rfl
  | cons char rest ih =>
    obtain ⟨next, taken, later⟩ := bind_eq_some_iff.mp scanned
    unfold Scan.take at taken
    split at taken
    · cases taken
    · rename_i opened
      rw [run_cons, reads scan char (by simpa using opened), taken]
      exact ih next later

variable (fields : Fields) (name : Text)

theorem run_key :
    (Reader.key fields .begun).run (name.flatMap escapeAscii ++ ['\x22']) =
      some (.keyed fields name) := by
  have reads : ∀ scan char, scan.closes char = false →
      (Reader.key fields scan).feed char = (scan.feed char).map (.key fields) := by
    intro scan char opened
    simp [Reader.feed, opened]
  have scanned := run_scanning reads .begun _ (take_content [] name)
  rw [run_append, scanned]
  simp [run_cons, Reader.feed, Scan.closes, fromUnits_content]

theorem run_text (name content : Text) :
    (Reader.text fields name .begun).run (content.flatMap escapeAscii ++ ['\x22']) =
      some (.valued (fields ++ [(name, .text content)])) := by
  have reads : ∀ scan char, scan.closes char = false →
      (Reader.text fields name scan).feed char = (scan.feed char).map (.text fields name) := by
    intro scan char opened
    simp [Reader.feed, opened]
  have scanned := run_scanning reads .begun _ (take_content [] content)
  rw [run_append, scanned]
  simp [run_cons, Reader.feed, Scan.closes, fromUnits_content]

theorem toDigits_head {value : Nat} (rest : Text) (zero : Nat.toDigits 10 value = '0' :: rest) :
    rest = [] := by
  induction value using Nat.strongRecOn generalizing rest with
  | ind value ih =>
    rw [Nat.toDigits_eq_if (by decide)] at zero
    split at zero
    · exact (cons.inj zero).2.symm
    exfalso
    cases high : Nat.toDigits 10 (value / 10) with
    | nil => exact Nat.toDigits_ne_nil high
    | cons first more =>
      rw [high] at zero
      have leading : first = '0' := (cons.inj zero).1
      rw [leading] at high
      have single := ih (value / 10) (by omega) more high
      rw [single] at high
      have none : value / 10 = 0 := by
        rw [← Nat.ofDigitChars_ten_toDigits (n := value / 10), high]
        decide
      omega

theorem finishNumber_toDigits (negative : Bool) (value : Nat) :
    finishNumber negative (Nat.toDigits 10 value) =
      some (if negative then -(value : Int) else (value : Int)) := by
  have whole := Nat.ofDigitChars_ten_toDigits (n := value)
  unfold finishNumber
  split
  · rename_i empty
    exact absurd empty Nat.toDigits_ne_nil
  · rename_i zero
    cases toDigits_head _ zero
  · rw [whole]

theorem run_digits (negative : Bool) (before digits : Text)
    (all : ∀ char ∈ digits, char.isDigit = true) :
    (Reader.number fields name negative before).run digits =
      some (.number fields name negative (before ++ digits)) := by
  induction digits generalizing before with
  | nil => simp
  | cons char rest ih =>
    have digit := all char mem_cons_self
    have later := ih (before ++ [char]) fun other member =>
      all other (mem_cons_of_mem _ member)
    rw [run_cons]
    simpa [Reader.feed, digit] using later

theorem toDigits_isDigit (value : Nat) : ∀ char ∈ Nat.toDigits 10 value, char.isDigit = true :=
  fun _ member => Nat.isDigit_of_mem_toDigits (by decide) (by decide) member

theorem digit_spec {char : Char} (digit : char.isDigit = true) :
    isBlank char = false ∧ char ≠ '\x22' ∧ char ≠ '-' := by
  refine ⟨?_, ?_, ?_⟩
  · by_contra blank
    simp only [isBlank, Bool.not_eq_false, decide_eq_true_eq] at blank
    rcases blank with rfl | rfl | rfl | rfl <;> revert digit <;> decide
  · rintro rfl
    revert digit
    decide
  · rintro rfl
    revert digit
    decide

theorem run_decimal (value : Int) :
    ∃ negative digits, (Reader.colon fields name).run (decimal value) =
        some (.number fields name negative digits) ∧ finishNumber negative digits = some value := by
  unfold decimal
  split
  · rename_i below
    refine ⟨true, Nat.toDigits 10 value.natAbs, ?_, ?_⟩
    · rw [run_cons]
      have digits := run_digits fields name true [] _ (toDigits_isDigit value.natAbs)
      simpa [Reader.feed, isBlank] using digits
    · rw [finishNumber_toDigits]
      simp only [if_true, some.injEq]
      omega
  · rename_i nonneg
    refine ⟨false, Nat.toDigits 10 value.natAbs, ?_, ?_⟩
    · cases written : Nat.toDigits 10 value.natAbs with
      | nil => exact absurd written Nat.toDigits_ne_nil
      | cons first rest =>
        have all := toDigits_isDigit value.natAbs
        rw [written] at all
        have digit := all first mem_cons_self
        obtain ⟨visible, unquoted, unsigned⟩ := digit_spec digit
        have later := run_digits fields name false [first] rest fun other member =>
          all other (mem_cons_of_mem _ member)
        rw [run_cons]
        simpa [Reader.feed, visible, unquoted, unsigned, digit] using later
    · rw [finishNumber_toDigits]
      simp only [Bool.false_eq_true, if_false, some.injEq]
      omega

theorem run_value (value : FlatValue) {char : Char} (ends : char.isDigit = false) :
    (Reader.colon fields name).run (value.written ++ [char]) =
      afterValue (fields ++ [(name, value)]) char := by
  cases value with
  | text content =>
    have read := run_text fields name content
    have quote : (Reader.colon fields name).feed '\x22' = some (.text fields name .begun) := by
      simp [Reader.feed, isBlank]
    simp only [FlatValue.written, quotedAscii, cons_append]
    rw [run_cons, quote, bind_some, run_append, read]
    simp [run_cons, Reader.feed]
  | int value =>
    obtain ⟨negative, digits, read, whole⟩ := run_decimal fields name value
    rw [FlatValue.written, run_append, read]
    simp [run_cons, Reader.feed, ends, whole]

theorem run_field (fields : Fields) (field : Text × FlatValue) (char : Char)
    (begins : reader.feed '\x22' = some (.key fields .begun)) (ends : char.isDigit = false) :
    reader.run (writtenField field ++ [char]) = afterValue (fields ++ [field]) char := by
  have name := run_key fields field.1
  have value := run_value fields field.1 field.2 ends
  have split : writtenField field ++ [char] =
      '\x22' :: ((field.1.flatMap escapeAscii ++ ['\x22']) ++
        (':' :: ' ' :: (field.2.written ++ [char]))) := by
    simp [writtenField, quotedAscii]
  rw [split, run_cons, begins, bind_some, run_append, name, bind_some, run_cons]
  simpa [Reader.feed, isBlank, run_cons] using value

theorem run_fields (before : Fields) (field : Text × FlatValue)
    (fields : Fields) (begins : reader.feed '\x22' = some (.key before .begun)) :
    reader.run (joined [',', ' '] ((field :: fields).map writtenField) ++ ['\x7d']) =
      some (.closed (before ++ field :: fields)) := by
  induction fields generalizing reader before field with
  | nil =>
    have read := run_field reader before field '\x7d' begins (by decide)
    simpa [joined, afterValue, isBlank] using read
  | cons next rest ih =>
    have read := run_field reader before field ',' begins (by decide)
    have later := ih (.comma (before ++ [field])) (before ++ [field]) next
      (by simp [Reader.feed, isBlank])
    have split : joined [',', ' '] ((field :: next :: rest).map writtenField) ++ ['\x7d'] =
        (writtenField field ++ [',']) ++
          (' ' :: (joined [',', ' '] ((next :: rest).map writtenField) ++ ['\x7d'])) := by
      simp [joined]
    have comma : afterValue (before ++ [field]) ',' = some (.comma (before ++ [field])) := by
      simp [afterValue, isBlank]
    have blank : (Reader.comma (before ++ [field])).feed ' ' =
        some (.comma (before ++ [field])) := by
      simp [Reader.feed, isBlank]
    rw [split, run_append, read, comma, bind_some, run_cons, blank, bind_some, later]
    simp

theorem run_writtenObject : Reader.start.run (writtenObject fields) = some (.closed fields) := by
  unfold writtenObject
  rw [run_cons]
  cases fields with
  | nil => rfl
  | cons field rest =>
    have read := run_fields .opened [] field rest (by simp [Reader.feed, isBlank])
    simpa [Reader.feed, isBlank] using read

theorem run_closed {fields : Fields} {text : Text} {final : Reader}
    (run : (Reader.closed fields).run text = some final) : ∀ char ∈ text, isBlank char = true := by
  induction text with
  | nil => exact forall_mem_nil _
  | cons char rest ih =>
    rw [run_cons] at run
    by_cases blank : isBlank char = true
    · simp only [Reader.feed, blank, if_true, bind_some] at run
      exact forall_mem_cons.mpr ⟨blank, ih run⟩
    · simp [Reader.feed, blank] at run

theorem readObject_torn {fields : Fields} {beginning rest : Text}
    (torn : writtenObject fields = beginning ++ rest) (missing : rest ≠ []) :
    readObject beginning = none := by
  have whole := run_writtenObject fields
  rw [torn, run_append] at whole
  obtain ⟨middle, first, second⟩ := bind_eq_some_iff.mp whole
  rw [readObject, first]
  cases middle with
  | closed read =>
    exfalso
    have blank := run_closed second
    -- The last character of an object is its brace.
    have brace : rest.getLast missing = '\x7d' := by
      have last : (writtenObject fields).getLast? = some '\x7d' := by
        simp [writtenObject, getLast?_cons]
      rw [torn, getLast?_append_of_ne_nil _ missing, getLast?_eq_some_getLast missing] at last
      exact some.inj last
    have visible := blank _ (getLast_mem missing)
    rw [brace] at visible
    cases visible
  | start | opened | key | keyed | colon | text | number | valued | comma => rfl

end

def printable (char : Char) : Bool :=
  decide (32 ≤ char.toNat ∧ char.toNat < 127)

theorem unicodeEscape_printable {unit : Nat} : ∀ char ∈ unicodeEscape unit, printable char = true :=
  forall_mem_cons.mpr ⟨by decide, forall_mem_cons.mpr
    ⟨by decide, forall_hexDigits (by decide) 4 unit⟩⟩

theorem escapeAscii_printable {char : Char} :
    ∀ written ∈ escapeAscii char, printable written = true := by
  have letters : ∀ entry ∈ shortEscapes, printable entry.2 = true := by decide
  unfold escapeAscii
  split
  · rename_i letter short
    obtain ⟨entry, found, rfl⟩ := map_eq_some_iff.mp short
    have own := letters entry (mem_of_find?_eq_some found)
    exact forall_mem_cons.mpr ⟨by decide, forall_mem_singleton.mpr own⟩
  · split
    · rename_i shown
      exact forall_mem_singleton.mpr (by simpa [printable] using shown)
    · exact forall_mem_flatMap.mpr fun unit _ => unicodeEscape_printable

theorem enclosed_printable {opening closing : Char} {inside : Text}
    (ends : printable opening = true ∧ printable closing = true)
    (shown : ∀ char ∈ inside, printable char = true) :
    ∀ char ∈ opening :: (inside ++ [closing]), printable char = true :=
  forall_mem_cons.mpr
    ⟨ends.1, forall_mem_append.mpr ⟨shown, forall_mem_singleton.mpr ends.2⟩⟩

theorem quotedAscii_printable {content : Text} :
    ∀ char ∈ quotedAscii content, printable char = true :=
  enclosed_printable (by decide)
    (forall_mem_flatMap.mpr fun char _ => escapeAscii_printable)

theorem digit_printable {char : Char} (digit : char.isDigit = true) : printable char = true := by
  simp only [Char.isDigit, Bool.and_eq_true, decide_eq_true_eq] at digit
  simp only [printable, decide_eq_true_eq]
  have low : 48 ≤ char.toNat := UInt32.le_iff_toNat_le.mp digit.1
  have high : char.toNat ≤ 57 := UInt32.le_iff_toNat_le.mp digit.2
  omega

theorem written_printable {value : FlatValue} : ∀ char ∈ value.written, printable char = true := by
  cases value with
  | text content => exact quotedAscii_printable
  | int value =>
    have digits : ∀ char ∈ Nat.toDigits 10 value.natAbs, printable char = true :=
      fun char member => digit_printable (toDigits_isDigit value.natAbs char member)
    simp only [FlatValue.written, decimal]
    split
    · exact forall_mem_cons.mpr ⟨by decide, digits⟩
    · exact digits

theorem writtenField_printable {field : Text × FlatValue} :
    ∀ char ∈ writtenField field, printable char = true := by
  have separator : ∀ char ∈ [':', ' '], printable char = true := all_eq_true.mp (by decide)
  exact forall_mem_append.mpr ⟨forall_mem_append.mpr
    ⟨quotedAscii_printable, separator⟩, written_printable⟩

theorem joined_printable {separator : Text} {parts : List Text}
    (between : ∀ char ∈ separator, printable char = true)
    (each : ∀ part ∈ parts, ∀ char ∈ part, printable char = true) :
    ∀ char ∈ joined separator parts, printable char = true := by
  induction parts with
  | nil => exact forall_mem_nil _
  | cons first rest ih =>
    obtain ⟨own, others⟩ := forall_mem_cons.mp each
    cases rest with
    | nil => exact own
    | cons second rest =>
      exact forall_mem_append.mpr ⟨forall_mem_append.mpr ⟨own, between⟩, ih others⟩

theorem writtenObject_printable {fields : Fields} :
    ∀ char ∈ writtenObject fields, printable char = true := by
  refine enclosed_printable (by decide) (joined_printable (all_eq_true.mp (by decide)) ?_)
  exact forall_mem_map.mpr fun field _ => writtenField_printable

end Nebula.Json
