import Nebula.JsonValue
import Mathlib.Data.List.TakeWhile

/-!
# What is written of a JSON value is read back

The reader gives every well-formed value back from what the writer puts down, so two values with
one text are one value; and whatever the reader reads is well formed. The reader's fuel is the
length of the text.
-/

namespace Nebula.Json

open List Option

theorem toNat_ofNat_ascii : ∀ unit < 0x80, (Char.ofNat unit).toNat = unit := by
  decide

theorem take_escapeUnit {before : List Nat} (unit : UInt16) :
    (escapeUnit unit).foldlM Scan.take ⟨before, .no⟩ = some ⟨before ++ [unit.toNat], .no⟩ := by
  have small : unit.toNat < 0x10000 := unit.toNat_lt
  unfold escapeUnit
  split
  · rename_i ascii
    have same := toNat_ofNat_ascii unit.toNat ascii
    have single : units (Char.ofNat unit.toNat) = [unit.toNat] := by
      simp [units, same, small]
    rw [take_escapeAscii, single]
  · exact take_unicodeEscape before small

theorem take_escapedUnits (before : List Nat) (content : Units) :
    (content.flatMap escapeUnit).foldlM Scan.take ⟨before, .no⟩ =
      some ⟨before ++ content.map UInt16.toNat, .no⟩ := by
  have written := take_flatMap content (fun unit _ _ => take_escapeUnit unit) before
  rwa [← map_eq_flatMap] at written

theorem readString_take (text rest : Text) (scan final : Scan)
    (taken : text.foldlM Scan.take scan = some final) :
    readString scan (text ++ rest) = readString final rest := by
  induction text generalizing scan with
  | nil =>
    cases taken
    rfl
  | cons char more ih =>
    obtain ⟨next, first, later⟩ := bind_eq_some_iff.mp taken
    unfold Scan.take at first
    split at first
    · cases first
    · rename_i opened
      simp only [cons_append, readString, opened, first, bind_some]
      exact ih next later

theorem pointUnits_toNat (unit : UInt16) : pointUnits unit.toNat = [unit] := by
  simp [pointUnits, unit.toNat_lt]

theorem readString_quoted (content : Units) (rest : Text) :
    readString .begun (content.flatMap escapeUnit ++ '\x22' :: rest) = some (content, rest) := by
  have read := readString_take _ ('\x22' :: rest) _ _ (take_escapedUnits [] content)
  rw [Scan.begun, read]
  simp [readString, Scan.closes, flatMap_map, pointUnits_toNat]

def Ends (rest : Text) : Prop :=
  ∀ char ∈ rest.head?, numberChar char = false

theorem takeWhile_number {literal rest : Text} (all : ∀ char ∈ literal, numberChar char = true)
    (ends : Ends rest) :
    (literal ++ rest).takeWhile numberChar = literal ∧
      (literal ++ rest).dropWhile numberChar = rest := by
  have stops : rest.takeWhile numberChar = [] ∧ rest.dropWhile numberChar = rest := by
    cases rest with
    | nil => exact ⟨rfl, rfl⟩
    | cons char more =>
      have other := ends char rfl
      simp [other]
  rw [takeWhile_append_of_pos all, dropWhile_append_of_pos all, stops.1, stops.2]
  exact ⟨append_nil literal, rfl⟩

theorem isWhole_toDigits (value : Nat) : isWhole (Nat.toDigits 10 value) = true := by
  have digits : (Nat.toDigits 10 value).all Char.isDigit = true :=
    all_eq_true.mpr (toDigits_isDigit value)
  have leading : (Nat.toDigits 10 value).head? = some '0' → Nat.toDigits 10 value = ['0'] := by
    intro zero
    obtain ⟨rest, shape⟩ := head?_eq_some_iff.mp zero
    rw [shape, toDigits_head rest shape]
  simp only [isWhole, digits, Bool.and_true, Bool.and_eq_true, decide_eq_true_eq]
  exact ⟨Nat.toDigits_ne_nil, leading⟩

theorem toDigits_unsigned (value : Nat) : (Nat.toDigits 10 value).head? ≠ some '-' := by
  intro sign
  obtain ⟨rest, shape⟩ := head?_eq_some_iff.mp sign
  have digit := toDigits_isDigit value '-' (by rw [shape]; exact mem_cons_self)
  revert digit
  decide

theorem unsigned_decimal (value : Int) :
    unsigned (decimal value) = Nat.toDigits 10 value.natAbs := by
  unfold decimal
  split
  · simp [unsigned]
  · simp [unsigned, toDigits_unsigned value.natAbs]

theorem unsigned_decimal_length {value : Int} (below : value.natAbs < 10 ^ maxDigits) :
    (unsigned (decimal value)).length ≤ maxDigits := by
  rw [unsigned_decimal]
  exact (Nat.length_toDigits_le_iff (by decide) (by decide)).mpr below

theorem integer_decimal (value : Int) :
    isInteger (decimal value) = true ∧ integer (decimal value) = value := by
  have read := Nat.ofDigitChars_ten_toDigits (n := value.natAbs)
  refine ⟨by rw [isInteger, unsigned_decimal]; exact isWhole_toDigits _, ?_⟩
  rw [integer, unsigned_decimal, read]
  unfold decimal
  split
  · simp only [head?_cons, if_true]
    omega
  · rw [if_neg (toDigits_unsigned value.natAbs)]
    omega

theorem decimal_numberChar (value : Int) : ∀ char ∈ decimal value, numberChar char = true := by
  have digits : ∀ char ∈ Nat.toDigits 10 value.natAbs, numberChar char = true := by
    intro char member
    simp [numberChar, toDigits_isDigit value.natAbs char member]
  unfold decimal
  split
  · exact forall_mem_cons.mpr ⟨by decide, digits⟩
  · exact digits

section

variable (decoder : Decoder)

mutual

def Value.WellFormed : Value → Prop
  | .null => True
  | .bool _ => True
  | .int value => value.natAbs < 10 ^ maxDigits
  | .float text => FloatText text ∧ (isFloat text = true → decoder.repr text = text)
  | .text _ => True
  | .array items => ItemsWellFormed items
  | .object members =>
    MembersWellFormed members ∧ members.Pairwise fun first second => keyBefore first.1 second.1

def ItemsWellFormed : List Value → Prop
  | [] => True
  | value :: rest => value.WellFormed ∧ ItemsWellFormed rest

def MembersWellFormed : List (Units × Value) → Prop
  | [] => True
  | (_, value) :: rest => value.WellFormed ∧ MembersWellFormed rest

end

def Plain (text : Text) : Prop :=
  ∀ char ∈ text.head?, char ≠ '\x22' ∧ char ≠ '[' ∧ char ≠ '\x7b'

variable (fuel : Nat)

theorem readValue_plain {text : Text} (plain : Plain text) :
    readValue decoder (fuel + 1) text = (readWord text).or (readNumber decoder text) := by
  cases text with
  | nil => simp [readValue]
  | cons char rest =>
    obtain ⟨quote, bracket, brace⟩ := plain char rfl
    rw [readValue]
    · intro _ same
      exact quote (cons.inj same).1
    · intro _ same
      exact bracket (cons.inj same).1
    · intro _ same
      exact brace (cons.inj same).1

structure Numeric (literal : Text) : Prop where
  number : ∀ char ∈ literal, numberChar char = true
  digits : unsigned literal ≠ []

variable {literal rest : Text}

theorem readWord_number (numeric : Numeric literal) : readWord (literal ++ rest) = none := by
  obtain ⟨number, digits⟩ := numeric
  cases literal with
  | nil => exact absurd rfl digits
  | cons first more =>
    have begins := number first mem_cons_self
    have other : ∀ char, numberChar char = false → char ≠ first := by
      rintro char letter rfl
      rw [begins] at letter
      cases letter
    have sign : first = '-' → ∃ second later, more = second :: later ∧ second ≠ 'I' := by
      rintro rfl
      cases more with
      | nil => exact absurd rfl digits
      | cons second later =>
        refine ⟨second, later, rfl, ?_⟩
        rintro rfl
        have letter := number 'I' (by simp)
        revert letter
        decide
    have none : ∀ word ∈ words, word.1.isPrefixOf (first :: more ++ rest) = false := by
      intro word member
      simp only [words, mem_cons, not_mem_nil, or_false] at member
      rcases member with rfl | rfl | rfl | rfl | rfl | rfl
      · simp [isPrefixOf, other 'n' (by decide)]
      · simp [isPrefixOf, other 't' (by decide)]
      · simp [isPrefixOf, other 'f' (by decide)]
      · simp [nan, isPrefixOf, other 'N' (by decide)]
      · simp [infinity, isPrefixOf, other 'I' (by decide)]
      · by_cases signed : first = '-'
        · obtain ⟨second, later, shape, visible⟩ := sign signed
          simp [shape, infinity, isPrefixOf, Ne.symm visible]
        · simp [isPrefixOf, Ne.symm signed]
    rw [readWord, findSome?_eq_none_iff]
    intro word member
    rw [if_neg (by rw [none word member]; decide)]

theorem isInteger_of_isFloat (float : isFloat literal = true) : isInteger literal = false := by
  by_contra integral
  rw [Bool.not_eq_false, isInteger, isWhole, Bool.and_eq_true, Bool.and_eq_true] at integral
  have digits := all_eq_true.mp integral.1.2
  have mantissa : ∀ char ∈ unsigned literal, decide (char ≠ 'e' ∧ char ≠ 'E') = true := by
    intro char member
    rw [decide_eq_true_eq]
    refine ⟨?_, ?_⟩ <;>
    · rintro rfl
      have digit := digits _ member
      revert digit
      decide
  have whole : (unsigned literal).takeWhile (fun char => decide (char ≠ 'e' ∧ char ≠ 'E')) =
      unsigned literal := takeWhile_eq_self_iff.mpr mantissa
  have exponent : (unsigned literal).dropWhile (fun char => decide (char ≠ 'e' ∧ char ≠ 'E')) =
      [] := dropWhile_eq_nil_iff.mpr mantissa
  have fraction : (unsigned literal).dropWhile Char.isDigit = [] := dropWhile_eq_nil_iff.mpr digits
  simp only [isFloat, whole, exponent, fraction] at float
  simp at float

theorem numeric_of_isFloat (float : isFloat literal = true)
    (number : ∀ char ∈ literal, numberChar char = true) : Numeric literal := by
  refine ⟨number, ?_⟩
  intro empty
  simp [isFloat, empty, isWhole] at float

theorem numeric_decimal (value : Int) : Numeric (decimal value) := by
  have whole := (integer_decimal value).1
  refine ⟨decimal_numberChar value, ?_⟩
  intro empty
  simp [isInteger, empty, isWhole] at whole

theorem plain_of_number (numeric : Numeric literal) : Plain (literal ++ rest) := by
  obtain ⟨number, digits⟩ := numeric
  cases literal with
  | nil => exact absurd rfl digits
  | cons first more =>
    intro char head
    obtain rfl : first = char := by simpa using head
    have begins := number first mem_cons_self
    refine ⟨?_, ?_, ?_⟩ <;>
    · rintro rfl
      revert begins
      decide

theorem readValue_number (numeric : Numeric literal) :
    readValue decoder (fuel + 1) (literal ++ rest) = readNumber decoder (literal ++ rest) := by
  rw [readValue_plain decoder fuel (plain_of_number numeric), readWord_number numeric, none_or]

theorem readValue_word (word : Text × Value) (member : word ∈ words) (rest : Text) :
    readValue decoder (fuel + 1) (word.1 ++ rest) = some (word.2, rest) := by
  simp only [words, mem_cons, not_mem_nil, or_false] at member
  rcases member with rfl | rfl | rfl | rfl | rfl | rfl <;>
    · rw [readValue_plain decoder fuel (by simp [Plain, nan, infinity])]
      rfl

abbrev KeysInOrder (members : Members) : Prop :=
  members.Pairwise fun first second => keyBefore first.1 second.1

theorem keyBefore_asymm {first second : Units} (before : keyBefore first second = true) :
    first ≠ second ∧ keyBefore second first = false := by
  simp only [keyBefore, decide_eq_true_eq, decide_eq_false_iff_not] at *
  refine ⟨?_, lt_asymm before⟩
  rintro rfl
  exact lt_irrefl _ before

theorem insertMember_last {member : Units × Value} {members : Members}
    (last : ∀ other ∈ members, keyBefore other.1 member.1 = true) :
    insertMember member members = members ++ [member] := by
  induction members with
  | nil => rfl
  | cons other rest ih =>
    obtain ⟨differs, later⟩ := keyBefore_asymm (last other mem_cons_self)
    rw [insertMember, if_neg (Ne.symm differs), if_neg (by rw [later]; decide),
      ih fun another inRest => last another (mem_cons_of_mem _ inRest), cons_append]

theorem dict_of_sorted {members : Members}
    (sorted : KeysInOrder members) :
    dict members = members := by
  have grows : ∀ (before later : Members),
      KeysInOrder (before ++ later) →
      later.foldl (fun members member => insertMember member members) before = before ++ later := by
    intro before later
    induction later generalizing before with
    | nil => simp
    | cons member rest ih =>
      intro ordered
      have last := (pairwise_append.mp ordered).2.2
      rw [foldl_cons, insertMember_last fun other inBefore =>
        last other inBefore member mem_cons_self]
      simpa using ih (before ++ [member]) (by simpa using ordered)
  exact grows [] members sorted

/-! ### What the reader meets first -/

def Opens (text : Text) : Prop :=
  ∃ char more, text = char :: more ∧ isBlank char = false ∧ char ≠ ']' ∧ char ≠ '\x7d'

theorem opens_number (numeric : Numeric literal) : Opens literal := by
  obtain ⟨number, digits⟩ := numeric
  cases literal with
  | nil => exact absurd rfl digits
  | cons first more =>
    have begins := number first mem_cons_self
    refine ⟨first, more, rfl, ?_, ?_, ?_⟩
    · by_contra blank
      simp only [isBlank, Bool.not_eq_false, decide_eq_true_eq] at blank
      rcases blank with rfl | rfl | rfl | rfl <;> revert begins <;> decide
    · rintro rfl
      revert begins
      decide
    · rintro rfl
      revert begins
      decide

theorem opens_dumps {value : Value} (formed : value.WellFormed decoder) : Opens value.dumps := by
  cases value with
  | null => exact ⟨'n', _, rfl, by decide⟩
  | bool value => cases value <;> exact ⟨_, _, rfl, by decide⟩
  | int value => exact opens_number (numeric_decimal value)
  | float text =>
    rcases formed.1 with ⟨float, number⟩ | rfl | rfl | rfl
    · exact opens_number (numeric_of_isFloat float number)
    · exact ⟨'N', _, rfl, by decide⟩
    · exact ⟨'I', _, rfl, by decide⟩
    · exact ⟨'-', _, rfl, by decide⟩
  | text content => exact ⟨'\x22', _, rfl, by decide⟩
  | array items => exact ⟨'[', _, rfl, by decide⟩
  | object members => exact ⟨'\x7b', _, rfl, by decide⟩

theorem skipBlanks_cons (char : Char) (rest : Text) (visible : isBlank char = false) :
    skipBlanks (char :: rest) = char :: rest := by
  simp [skipBlanks, visible]

theorem skipBlanks_opens {text : Text} (rest : Text) (opens : Opens text) :
    skipBlanks (text ++ rest) = text ++ rest := by
  obtain ⟨char, more, rfl, visible, _⟩ := opens
  exact skipBlanks_cons char (more ++ rest) visible

/-! ### Reading what is written -/

theorem readValue_float {text rest : Text}
    (formed : (Value.float text).WellFormed decoder) (ends : Ends rest) :
    readValue decoder (fuel + 1) (text ++ rest) = some (.float text, rest) := by
  obtain ⟨shape, stable⟩ := formed
  rcases shape with ⟨float, number⟩ | rfl | rfl | rfl
  · obtain ⟨taken, left⟩ := takeWhile_number number ends
    rw [readValue_number decoder fuel (numeric_of_isFloat float number)]
    simp [readNumber, taken, left, isInteger_of_isFloat float, float, stable float]
  · exact readValue_word decoder fuel (nan, .float nan) (by simp [words]) rest
  · exact readValue_word decoder fuel (infinity, .float infinity) (by simp [words]) rest
  · exact readValue_word decoder fuel ('-' :: infinity, .float ('-' :: infinity))
      (by simp [words]) rest

theorem ends_cons (char : Char) (rest : Text) (other : numberChar char = false) :
    Ends (char :: rest) := by
  intro head same
  obtain rfl : char = head := by simpa using same
  exact other

theorem readValue_array (fuel : Nat) (inside rest : Text) (opens : Opens inside) :
    readValue decoder (fuel + 1) ('[' :: (inside ++ rest)) =
      (readItems decoder fuel (inside ++ rest)).map fun read => (.array read.1, read.2) := by
  have kept := skipBlanks_opens rest opens
  obtain ⟨char, more, rfl, _, bracket, _⟩ := opens
  rw [readValue, kept]
  split
  · rename_i same
    exact absurd (cons.inj same).1 bracket
  · rfl

theorem readValue_object (inside rest : Text) (opens : Opens inside) :
    readValue decoder (fuel + 1) ('\x7b' :: (inside ++ rest)) =
      (readMembers decoder fuel (inside ++ rest)).map
        fun read => (.object (dict read.1), read.2) := by
  have kept := skipBlanks_opens rest opens
  obtain ⟨char, more, rfl, _, _, brace⟩ := opens
  rw [readValue, kept]
  split
  · rename_i same
    exact absurd (cons.inj same).1 brace
  · rfl

theorem opens_joined {first : Text} (rest : List Text) (opens : Opens first) :
    Opens (joined [','] (first :: rest)) := by
  obtain ⟨char, more, rfl, visible⟩ := opens
  cases rest with
  | nil => exact ⟨char, more, rfl, visible⟩
  | cons second rest => exact ⟨char, _, rfl, visible⟩

theorem opens_member (name : Units) (value : Text) : Opens (quotedUnits name ++ ':' :: value) :=
  ⟨'\x22', _, rfl, by decide⟩

theorem readMembers_member {fuel : Nat} (name : Units) {value rest : Text}
    (opens : Opens value) {read : Value × Text}
    (valued : readValue decoder fuel (value ++ rest) = some read) :
    (∀ after, read.2 = '\x7d' :: after →
        readMembers decoder (fuel + 1) (quotedUnits name ++ ':' :: value ++ rest) =
          some ([(name, read.1)], after)) ∧
      ∀ others, read.2 = ',' :: others →
        readMembers decoder (fuel + 1) (quotedUnits name ++ ':' :: value ++ rest) =
          (readMembers decoder fuel (skipBlanks others)).map
            fun later => ((name, read.1) :: later.1, later.2) := by
  have split : quotedUnits name ++ ':' :: value ++ rest =
      '\x22' :: (name.flatMap escapeUnit ++ '\x22' :: ':' :: (value ++ rest)) := by
    simp [quotedUnits]
  have named := readString_quoted name (':' :: (value ++ rest))
  have colon := skipBlanks_cons ':' (value ++ rest) rfl
  have kept := skipBlanks_opens rest opens
  refine ⟨?_, ?_⟩ <;>
  · intro after shape
    rw [split, readMembers, named]
    simp only [bind_some, colon, kept, valued, shape]
    rfl

mutual

theorem readValue_dumps (value : Value) (formed : value.WellFormed decoder) (fuel : Nat)
    (rest : Text) (enough : value.dumps.length ≤ fuel) (ends : Ends rest) :
    readValue decoder fuel (value.dumps ++ rest) = some (value, rest) := by
  cases fuel with
  | zero =>
    obtain ⟨char, more, shape, _⟩ := opens_dumps decoder formed
    rw [shape] at enough
    cases enough
  | succ fuel =>
    cases value with
    | null => exact readValue_word decoder fuel (_, .null) (by simp [words]) rest
    | bool value =>
      cases value with
      | true => exact readValue_word decoder fuel (_, .bool true) (by simp [words]) rest
      | false => exact readValue_word decoder fuel (_, .bool false) (by simp [words]) rest
    | int value =>
      obtain ⟨taken, left⟩ := takeWhile_number (decimal_numberChar value) ends
      obtain ⟨whole, same⟩ := integer_decimal value
      rw [Value.dumps, readValue_number decoder fuel (numeric_decimal value)]
      simp [readNumber, taken, left, whole, same, unsigned_decimal_length formed]
    | float text => exact readValue_float decoder fuel formed ends
    | text content =>
      have read := readString_quoted content rest
      simp [Value.dumps, readValue, quotedUnits, read]
    | array items =>
      cases items with
      | nil => rfl
      | cons first items =>
        have read := readItems_dumps first items formed fuel rest (by
          simpa [Value.dumps] using enough)
        have opens := opens_joined (dumpsItems items) (opens_dumps decoder formed.1)
        have split := readValue_array decoder fuel _ (']' :: rest) opens
        rw [dumpsItems] at read
        rw [read] at split
        simpa [Value.dumps, dumpsItems] using split
    | object members =>
      cases members with
      | nil => rfl
      | cons first members =>
        obtain ⟨each, sorted⟩ := formed
        have read := readMembers_dumps first members each fuel rest (by
          simpa [Value.dumps] using enough)
        have opens := opens_joined (dumpsMembers members) (opens_member first.1 first.2.dumps)
        have split := readValue_object decoder fuel _ ('\x7d' :: rest) opens
        rw [dumpsMembers] at read
        rw [read] at split
        simpa [Value.dumps, dumpsMembers, dict_of_sorted sorted] using split
termination_by fuel

theorem readItems_dumps (first : Value) (items : List Value)
    (formed : ItemsWellFormed decoder (first :: items)) (fuel : Nat) (rest : Text)
    (enough : (joined [','] (dumpsItems (first :: items))).length + 1 ≤ fuel) :
    readItems decoder fuel (joined [','] (dumpsItems (first :: items)) ++ ']' :: rest) =
      some (first :: items, rest) := by
  cases fuel with
  | zero => cases enough
  | succ fuel =>
    cases items with
    | nil =>
      have read := readValue_dumps first formed.1 fuel (']' :: rest)
        (by simpa [dumpsItems, joined] using enough) (ends_cons _ _ rfl)
      simp [dumpsItems, joined, readItems, read, skipBlanks, isBlank]
    | cons second items =>
      have short : first.dumps.length ≤ fuel ∧
          (joined [','] (dumpsItems (second :: items))).length + 1 ≤ fuel := by
        simp only [dumpsItems, joined, length_append, length_singleton] at enough ⊢
        omega
      have read := readValue_dumps first formed.1 fuel
        (',' :: (joined [','] (dumpsItems (second :: items)) ++ ']' :: rest)) short.1
        (ends_cons _ _ rfl)
      have later := readItems_dumps second items formed.2 fuel rest short.2
      have kept := skipBlanks_opens (']' :: rest)
        (opens_joined (dumpsItems items) (opens_dumps decoder formed.2.1))
      have comma := skipBlanks_cons ','
        (joined [','] (dumpsItems (second :: items)) ++ ']' :: rest) rfl
      rw [← dumpsItems] at kept
      have whole : joined [','] (dumpsItems (first :: second :: items)) ++ ']' :: rest =
          first.dumps ++ ',' :: (joined [','] (dumpsItems (second :: items)) ++ ']' :: rest) := by
        simp [dumpsItems, joined]
      rw [whole, readItems, read]
      simp [comma, kept, later]
termination_by fuel

theorem readMembers_dumps (first : Units × Value) (members : Members)
    (formed : MembersWellFormed decoder (first :: members)) (fuel : Nat) (rest : Text)
    (enough : (joined [','] (dumpsMembers (first :: members))).length + 1 ≤ fuel) :
    readMembers decoder fuel (joined [','] (dumpsMembers (first :: members)) ++ '\x7d' :: rest) =
      some (first :: members, rest) := by
  cases fuel with
  | zero => cases enough
  | succ fuel =>
    cases first with
    | mk name value =>
    obtain ⟨valued, others⟩ := formed
    have opens := opens_dumps decoder valued
    cases members with
    | nil =>
      have short : value.dumps.length ≤ fuel := by
        simp only [dumpsMembers, joined, length_append, length_cons] at enough
        omega
      have read := readValue_dumps value valued fuel ('\x7d' :: rest) short (ends_cons _ _ rfl)
      exact (readMembers_member decoder name opens read).1 rest rfl
    | cons second members =>
      have short : value.dumps.length ≤ fuel ∧
          (joined [','] (dumpsMembers (second :: members))).length + 1 ≤ fuel := by
        simp only [dumpsMembers, joined, length_append, length_cons] at enough ⊢
        omega
      have read := readValue_dumps value valued fuel
        (',' :: (joined [','] (dumpsMembers (second :: members)) ++ '\x7d' :: rest)) short.1
        (ends_cons _ _ rfl)
      have later := readMembers_dumps second members others fuel rest short.2
      have kept := skipBlanks_opens ('\x7d' :: rest)
        (opens_joined (dumpsMembers members) (opens_member second.1 second.2.dumps))
      rw [← dumpsMembers] at kept
      have split := (readMembers_member decoder name opens read).2 _ rfl
      rw [kept, later] at split
      simpa [dumpsMembers, joined] using split
termination_by fuel

end

theorem readValue_whole {value : Value} (formed : value.WellFormed decoder) :
    readValue decoder (value.dumps.length + 1) value.dumps = some (value, []) := by
  have read := readValue_dumps decoder value formed (value.dumps.length + 1) []
    (Nat.le_succ _) (by intro char none; cases none)
  rwa [append_nil] at read

theorem loads_dumps {value : Value} (formed : value.WellFormed decoder)
    (fits : decoder.fits value.dumps = true) : loads decoder value.dumps = some value := by
  have kept := skipBlanks_opens [] (opens_dumps decoder formed)
  rw [append_nil] at kept
  rw [loads, if_pos fits, kept, readValue_whole decoder formed, bind_some]
  exact if_pos rfl

theorem dumps_injective {first second : Value} (firstFormed : first.WellFormed decoder)
    (secondFormed : second.WellFormed decoder) (same : first.dumps = second.dumps) :
    first = second := by
  have read := readValue_whole decoder firstFormed
  rw [same, readValue_whole decoder secondFormed] at read
  exact (Prod.mk.inj (some.inj read)).1.symm

/-! ### What is read is well formed -/

theorem ofDigitChars_lt {digits : Text} (all : ∀ char ∈ digits, char.isDigit = true)
    (before : Nat) :
    Nat.ofDigitChars 10 digits before < (before + 1) * 10 ^ digits.length := by
  induction digits generalizing before with
  | nil => simp
  | cons char rest ih =>
    obtain ⟨digit, others⟩ := forall_mem_cons.mp all
    simp only [Char.isDigit, Bool.and_eq_true, decide_eq_true_eq] at digit
    have high : char.toNat ≤ 57 := UInt32.le_iff_toNat_le.mp digit.2
    calc Nat.ofDigitChars 10 (char :: rest) before
        = Nat.ofDigitChars 10 rest (10 * before + (char.toNat - 48)) := Nat.ofDigitChars_cons
      _ < (10 * before + (char.toNat - 48) + 1) * 10 ^ rest.length := ih others _
      _ ≤ ((before + 1) * 10) * 10 ^ rest.length := Nat.mul_le_mul_right _ (by omega)
      _ = (before + 1) * 10 ^ (rest.length + 1) := by rw [Nat.pow_succ', Nat.mul_assoc]

theorem integer_lt {literal : Text} (whole : isInteger literal = true)
    (short : (unsigned literal).length ≤ maxDigits) :
    (integer literal).natAbs < 10 ^ maxDigits := by
  simp only [isInteger, isWhole, Bool.and_eq_true] at whole
  have below := ofDigitChars_lt (List.all_eq_true.mp whole.1.2) 0
  have same : (integer literal).natAbs = Nat.ofDigitChars 10 (unsigned literal) 0 := by
    unfold integer
    split <;> omega
  rw [same]
  calc Nat.ofDigitChars 10 (unsigned literal) 0
      < (0 + 1) * 10 ^ (unsigned literal).length := below
    _ ≤ 10 ^ maxDigits := by
      rw [Nat.zero_add, Nat.one_mul]
      exact Nat.pow_le_pow_right (by decide) short

theorem flatMap_points (content : Units) : (points content).flatMap pointUnits = content := by
  fun_induction points content with
  | case1 => rfl
  | case2 unit => simp [pointUnits_toNat]
  | case3 high low rest pair ih =>
    simp only [Bool.and_eq_true, isHigh, isLow, decide_eq_true_eq] at pair
    have first : 0xD800 + (0x10000 + (high.toNat - 0xD800) * 0x400 + (low.toNat - 0xDC00) -
        0x10000) / 0x400 = high.toNat := by omega
    have second : 0xDC00 + (0x10000 + (high.toNat - 0xD800) * 0x400 + (low.toNat - 0xDC00) -
        0x10000) % 0x400 = low.toNat := by omega
    rw [flatMap_cons, ih, pointUnits, if_neg (by omega), first, second]
    simp
  | case4 high low rest single ih =>
    rw [flatMap_cons, ih, pointUnits_toNat]
    rfl

theorem membersWellFormed_iff (members : Members) :
    MembersWellFormed decoder members ↔
      ∀ member ∈ members, member.2.WellFormed decoder := by
  induction members with
  | nil => simp [MembersWellFormed]
  | cons member rest ih => simp [MembersWellFormed, ih]

theorem mem_insertMember {member other : Units × Value} {members : Members}
    (among : other ∈ insertMember member members) : other = member ∨ other ∈ members := by
  induction members with
  | nil => exact Or.inl (mem_singleton.mp among)
  | cons first rest ih =>
    unfold insertMember at among
    split at among
    · rcases mem_cons.mp among with new | old
      · exact Or.inl new
      · exact Or.inr (mem_cons_of_mem _ old)
    split at among
    · exact mem_cons.mp among
    · rcases mem_cons.mp among with head | later
      · exact Or.inr (head ▸ mem_cons_self)
      · exact (ih later).imp_right (mem_cons_of_mem _)

theorem insertMember_sorted {member : Units × Value} {members : Members}
    (sorted : KeysInOrder members) : KeysInOrder (insertMember member members) := by
  induction members with
  | nil => exact pairwise_singleton _ _
  | cons first rest ih =>
    obtain ⟨ahead, later⟩ := pairwise_cons.mp sorted
    unfold insertMember
    split
    · rename_i same
      exact pairwise_cons.mpr ⟨fun other inRest => same ▸ ahead other inRest, later⟩
    rename_i differ
    split
    · rename_i before
      refine pairwise_cons.mpr ⟨?_, sorted⟩
      intro other among
      rcases mem_cons.mp among with rfl | inRest
      · exact before
      · exact decide_eq_true
          ((of_decide_eq_true before).trans (of_decide_eq_true (ahead other inRest)))
    · rename_i after
      refine pairwise_cons.mpr ⟨?_, ih later⟩
      intro other among
      rcases mem_insertMember among with rfl | inRest
      · refine decide_eq_true (lt_of_le_of_ne (by simpa [keyBefore] using after) fun same => ?_)
        apply differ
        rw [← flatMap_points other.1, ← flatMap_points first.1, same]
      · exact ahead other inRest

theorem insertMember_values (test : Value → Prop) {member : Units × Value} {members : Members}
    (own : test member.2) (others : ∀ other ∈ members, test other.2) :
    ∀ other ∈ insertMember member members, test other.2 := by
  intro other among
  rcases mem_insertMember among with rfl | old
  · exact own
  · exact others other old

theorem insertMember_wellFormed {member : Units × Value} {members : Members}
    (valued : member.2.WellFormed decoder) (formed : (Value.object members).WellFormed decoder) :
    (Value.object (insertMember member members)).WellFormed decoder := by
  obtain ⟨each, sorted⟩ := formed
  rw [membersWellFormed_iff] at each
  exact ⟨(membersWellFormed_iff decoder _).mpr (insertMember_values _ valued each),
    insertMember_sorted sorted⟩

theorem dict_invariant (holds : Members → Prop) {pairs : Members} (empty : holds [])
    (added : ∀ pair ∈ pairs, ∀ members, holds members → holds (insertMember pair members)) :
    holds (dict pairs) := by
  have grows : ∀ members, holds members →
      holds (pairs.foldl (fun members member => insertMember member members) members) := by
    induction pairs with
    | nil => exact fun _ kept => kept
    | cons pair rest ih =>
      intro members kept
      exact ih (fun other among => added other (mem_cons_of_mem _ among)) _
        (added pair mem_cons_self members kept)
  exact grows [] empty

theorem dict_values (test : Value → Prop) {pairs : Members}
    (each : ∀ pair ∈ pairs, test pair.2) : ∀ member ∈ dict pairs, test member.2 :=
  dict_invariant (fun members => ∀ member ∈ members, test member.2) (forall_mem_nil _)
    fun pair among _ before => insertMember_values test (each pair among) before

theorem dict_wellFormed {pairs : Members} (formed : MembersWellFormed decoder pairs) :
    (Value.object (dict pairs)).WellFormed decoder := by
  rw [membersWellFormed_iff] at formed
  refine dict_invariant (fun members => (Value.object members).WellFormed decoder)
    ⟨trivial, Pairwise.nil⟩ ?_
  exact fun pair among members before =>
    insertMember_wellFormed decoder (formed pair among) before

mutual

theorem readValue_wellFormed (fuel : Nat) (text : Text) (read : Value × Text)
    (found : readValue decoder fuel text = some read) : read.1.WellFormed decoder := by
  cases fuel with
  | zero => simp [readValue] at found
  | succ fuel =>
    unfold readValue at found
    split at found
    · obtain ⟨content, closed, rfl⟩ := map_eq_some_iff.mp found
      trivial
    · split at found
      · cases found
        trivial
      · obtain ⟨items, inside, rfl⟩ := map_eq_some_iff.mp found
        exact readItems_wellFormed fuel _ inside
    · split at found
      · cases found
        exact ⟨trivial, Pairwise.nil⟩
      · obtain ⟨members, inside, rfl⟩ := map_eq_some_iff.mp found
        exact dict_wellFormed decoder (readMembers_wellFormed fuel _ inside)
    · rcases or_eq_some_iff.mp found with word | ⟨_, number⟩
      · obtain ⟨word, member, matched⟩ := exists_of_findSome?_eq_some word
        split at matched
        · cases matched
          simp only [words, mem_cons, not_mem_nil, or_false] at member
          rcases member with rfl | rfl | rfl | rfl | rfl | rfl
          · trivial
          · trivial
          · trivial
          all_goals exact ⟨by simp [FloatText], fun float => absurd float (by decide)⟩
        · cases matched
      · simp only [readNumber] at number
        split at number
        · rename_i whole
          obtain ⟨short, number⟩ := ite_none_right_eq_some.mp number
          cases number
          exact integer_lt whole short
        · obtain ⟨float, number⟩ := ite_none_right_eq_some.mp number
          cases number
          exact ⟨decoder.floatText _ float, decoder.stable _ float⟩
termination_by fuel

theorem readItems_wellFormed (fuel : Nat) {text : Text} (read : List Value × Text)
    (found : readItems decoder fuel text = some read) : ItemsWellFormed decoder read.1 := by
  cases fuel with
  | zero => simp [readItems] at found
  | succ fuel =>
    obtain ⟨item, first, later⟩ := bind_eq_some_iff.mp found
    have own := readValue_wellFormed fuel text item first
    split at later
    · cases later
      exact ⟨own, trivial⟩
    · obtain ⟨items, rest, rfl⟩ := map_eq_some_iff.mp later
      exact ⟨own, readItems_wellFormed fuel _ rest⟩
    · cases later
termination_by fuel

theorem readMembers_wellFormed (fuel : Nat) {text : Text} (read : Members × Text)
    (found : readMembers decoder fuel text = some read) : MembersWellFormed decoder read.1 := by
  cases fuel with
  | zero => simp [readMembers] at found
  | succ fuel =>
    unfold readMembers at found
    split at found
    swap
    · cases found
    obtain ⟨name, closed, named⟩ := bind_eq_some_iff.mp found
    split at named
    swap
    · cases named
    obtain ⟨value, first, later⟩ := bind_eq_some_iff.mp named
    have own := readValue_wellFormed fuel _ value first
    split at later
    · cases later
      exact ⟨own, trivial⟩
    · obtain ⟨members, rest, rfl⟩ := map_eq_some_iff.mp later
      exact ⟨own, readMembers_wellFormed fuel _ rest⟩
    · cases later
termination_by fuel

end

theorem loads_wellFormed (text : Text) (value : Value) (loaded : loads decoder text = some value) :
    value.WellFormed decoder := by
  obtain ⟨_, loaded⟩ := ite_none_right_eq_some.mp loaded
  obtain ⟨read, found, whole⟩ := bind_eq_some_iff.mp loaded
  have formed := readValue_wellFormed decoder _ _ read found
  split at whole
  · cases whole
    exact formed
  · cases whole

end

end Nebula.Json
