import Nebula.JsonReader
import Mathlib.Data.List.Lex

/-!
# JSON values, written compactly and read back

Values of every kind, as a writer puts them down that escapes everything outside printable ASCII,
sorts keys and leaves no blanks, and a reader that goes down into them. A string is its UTF-16 code
units, so a surrogate may stand alone; an object is kept by its keys in order, and of two members
with one name it has the last.

What a floating-point number is written as, and how deep a text may nest, are parameters. An
integer has as many digits as Python converts.
-/

namespace Nebula.Json

abbrev Units := List UInt16

def pointUnits (point : Nat) : Units :=
  if point < 0x10000 then [.ofNat point]
  else [.ofNat (0xD800 + (point - 0x10000) / 0x400), .ofNat (0xDC00 + (point - 0x10000) % 0x400)]

def asUnits (text : Text) : Units :=
  text.flatMap fun char => pointUnits char.toNat

def points : Units → List Nat
  | [] => []
  | [unit] => [unit.toNat]
  | high :: low :: rest =>
    if isHigh high.toNat && isLow low.toNat then
      (0x10000 + (high.toNat - 0xD800) * 0x400 + (low.toNat - 0xDC00)) :: points rest
    else high.toNat :: points (low :: rest)

def escapeUnit (unit : UInt16) : Text :=
  if unit.toNat < 0x80 then escapeAscii (Char.ofNat unit.toNat) else unicodeEscape unit.toNat

def quotedUnits (content : Units) : Text :=
  '\x22' :: (content.flatMap escapeUnit ++ ['\x22'])

def numberChar (char : Char) : Bool :=
  char.isDigit || decide (char = '-' ∨ char = '+' ∨ char = '.' ∨ char = 'e' ∨ char = 'E')

def unsigned (literal : Text) : Text :=
  if literal.head? = some '-' then literal.drop 1 else literal

def isWhole (digits : Text) : Bool :=
  decide (digits ≠ []) && digits.all Char.isDigit &&
    decide (digits.head? = some '0' → digits = ['0'])

def isInteger (literal : Text) : Bool :=
  isWhole (unsigned literal)

def isDigits (digits : Text) : Bool :=
  decide (digits ≠ []) && digits.all Char.isDigit

def isExponent (exponent : Text) : Bool :=
  match exponent with
  | [] => true
  | _ :: '+' :: digits => isDigits digits
  | _ :: '-' :: digits => isDigits digits
  | _ :: digits => isDigits digits

def isFloat (literal : Text) : Bool :=
  let mantissa := (unsigned literal).takeWhile fun char => decide (char ≠ 'e' ∧ char ≠ 'E')
  let exponent := (unsigned literal).dropWhile fun char => decide (char ≠ 'e' ∧ char ≠ 'E')
  let whole := mantissa.takeWhile Char.isDigit
  let fraction := mantissa.dropWhile Char.isDigit
  isWhole whole && isExponent exponent && decide (fraction ≠ [] ∨ exponent ≠ []) &&
    (decide (fraction = []) || decide (fraction.head? = some '.') && isDigits (fraction.drop 1))

def nan : Text := ['N', 'a', 'N']

def infinity : Text := ['I', 'n', 'f', 'i', 'n', 'i', 't', 'y']

def FloatText (text : Text) : Prop :=
  (isFloat text = true ∧ ∀ char ∈ text, numberChar char = true) ∨ text = nan ∨ text = infinity ∨
    text = '-' :: infinity

inductive Value where
  | null
  | bool (value : Bool)
  | int (value : Int)
  | float (text : Text)
  | text (content : Units)
  | array (items : List Value)
  | object (members : List (Units × Value))

abbrev Members := List (Units × Value)

mutual

def Value.dumps : Value → Text
  | .null => ['n', 'u', 'l', 'l']
  | .bool true => ['t', 'r', 'u', 'e']
  | .bool false => ['f', 'a', 'l', 's', 'e']
  | .int value => decimal value
  | .float text => text
  | .text content => quotedUnits content
  | .array items => '[' :: (joined [','] (dumpsItems items) ++ [']'])
  | .object members => '\x7b' :: (joined [','] (dumpsMembers members) ++ ['\x7d'])

def dumpsItems : List Value → List Text
  | [] => []
  | value :: rest => value.dumps :: dumpsItems rest

def dumpsMembers : List (Units × Value) → List Text
  | [] => []
  | (name, value) :: rest => (quotedUnits name ++ ':' :: value.dumps) :: dumpsMembers rest

end

def Value.flat : Value → Bool
  | .array _ | .object _ => false
  | _ => true

/-- What is left to the platform: floating-point numbers, by what is written of the one a literal
reads as, and whether its stack is deep enough for the nesting of a text. -/
structure Decoder where
  repr : Text → Text
  equals : Text → Nat → Bool
  floatText : ∀ literal, isFloat literal = true → FloatText (repr literal)
  stable : ∀ literal, isFloat literal = true → isFloat (repr literal) = true →
    repr (repr literal) = repr literal
  fits : Text → Bool
  flat : ∀ members : Members, (∀ member ∈ members, member.2.flat = true) →
    fits (Value.object members).dumps = true

def Decoder.coarse : Decoder where
  repr := fun _ => nan
  equals := fun _ _ => false
  floatText := fun _ _ => Or.inr (Or.inl rfl)
  stable := fun _ _ _ => rfl
  fits := fun _ => true
  flat := fun _ _ => rfl

def keyBefore (first second : Units) : Bool :=
  decide (points first < points second)

def insertMember (member : Units × Value) : Members → Members
  | [] => [member]
  | other :: rest =>
    if member.1 = other.1 then member :: rest
    else if keyBefore member.1 other.1 then member :: other :: rest
    else other :: insertMember member rest

def dict (pairs : Members) : Members :=
  pairs.foldl (fun members member => insertMember member members) []

def skipBlanks (text : Text) : Text :=
  text.dropWhile isBlank

def readString : Scan → Text → Option (Units × Text)
  | _, [] => none
  | scan, char :: rest =>
    if scan.closes char then some (scan.units.flatMap pointUnits, rest)
    else (scan.feed char).bind fun next => readString next rest

def words : List (Text × Value) :=
  [(['n', 'u', 'l', 'l'], .null), (['t', 'r', 'u', 'e'], .bool true),
    (['f', 'a', 'l', 's', 'e'], .bool false), (nan, .float nan), (infinity, .float infinity),
    ('-' :: infinity, .float ('-' :: infinity))]

def readWord (text : Text) : Option (Value × Text) :=
  words.findSome? fun word =>
    if word.1.isPrefixOf text then some (word.2, text.drop word.1.length) else none

def integer (literal : Text) : Int :=
  if literal.head? = some '-' then -(Nat.ofDigitChars 10 (unsigned literal) 0 : Int)
  else (Nat.ofDigitChars 10 (unsigned literal) 0 : Int)

/-- `sys.get_int_max_str_digits()`. -/
def maxDigits : Nat := 4300

section

variable (decoder : Decoder)

def readNumber (text : Text) : Option (Value × Text) :=
  let literal := text.takeWhile numberChar
  if isInteger literal then
    if (unsigned literal).length ≤ maxDigits then
      some (.int (integer literal), text.dropWhile numberChar)
    else none
  else if isFloat literal then some (.float (decoder.repr literal), text.dropWhile numberChar)
  else none

mutual

def readValue : Nat → Text → Option (Value × Text)
  | 0, _ => none
  | fuel + 1, text =>
    match text with
    | '\x22' :: rest => (readString .begun rest).map fun read => (.text read.1, read.2)
    | '[' :: rest =>
      match skipBlanks rest with
      | ']' :: after => some (.array [], after)
      | inside => (readItems fuel inside).map fun read => (.array read.1, read.2)
    | '\x7b' :: rest =>
      match skipBlanks rest with
      | '\x7d' :: after => some (.object [], after)
      | inside => (readMembers fuel inside).map fun read => (.object (dict read.1), read.2)
    | _ => (readWord text).or (readNumber decoder text)

def readItems : Nat → Text → Option (List Value × Text)
  | 0, _ => none
  | fuel + 1, text =>
    (readValue fuel text).bind fun item =>
      match skipBlanks item.2 with
      | ']' :: after => some ([item.1], after)
      | ',' :: rest =>
        (readItems fuel (skipBlanks rest)).map fun read => (item.1 :: read.1, read.2)
      | _ => none

def readMembers : Nat → Text → Option (Members × Text)
  | 0, _ => none
  | fuel + 1, text =>
    match text with
    | '\x22' :: opened =>
      (readString .begun opened).bind fun name =>
        match skipBlanks name.2 with
        | ':' :: rest =>
          (readValue fuel (skipBlanks rest)).bind fun value =>
            match skipBlanks value.2 with
            | '\x7d' :: after => some ([(name.1, value.1)], after)
            | ',' :: rest =>
              (readMembers fuel (skipBlanks rest)).map fun read =>
                ((name.1, value.1) :: read.1, read.2)
            | _ => none
        | _ => none
    | _ => none

end

/-- Whatever `json.loads` raises, it reads no value. -/
def loads (text : Text) : Option Value :=
  if decoder.fits text then
    (readValue decoder (text.length + 1) (skipBlanks text)).bind fun read =>
      if skipBlanks read.2 = [] then some read.1 else none
  else none

end

end Nebula.Json
