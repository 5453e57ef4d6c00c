import Nebula.Json

/-!
# A log of lines

A log is a text to which whole lines are appended. Reading it back takes the lines apart and keeps
what can be read. An append cut short leaves the beginning of a line, which reads as nothing unless
only the line break is missing; a line appended to it is no line of its own.
-/

namespace Nebula.LineLog

open Json List

def lineBreaks : List Char :=
  ['\x0a', '\x0b', '\x0c', '\x0d', '\x1c', '\x1d', '\x1e', '\u0085', '\u2028', '\u2029']

def isLineBreak (char : Char) : Bool :=
  decide (char ∈ lineBreaks)

def splitLines : Text → List Text
  | [] => []
  | char :: rest =>
    if isLineBreak char then [] :: splitLines rest
    else
      match splitLines rest with
      | [] => [[char]]
      | line :: later => (char :: line) :: later

/-- A way to write entries as lines, such that the beginning of a line is not mistaken for
one. -/
structure Codec (Entry : Type) where
  write : Entry → Text
  read : Text → Option Entry
  unbroken : ∀ entry, ∀ char ∈ write entry, isLineBreak char = false
  nonempty : ∀ entry, write entry ≠ []
  reads : ∀ entry, read (write entry) = some entry
  torn : ∀ entry beginning rest, write entry = beginning ++ rest → rest ≠ [] →
    read beginning = none

variable {Entry : Type}

def Codec.line (codec : Codec Entry) (entry : Entry) : Text :=
  codec.write entry ++ ['\x0a']

def Codec.text (codec : Codec Entry) (entries : List Entry) : Text :=
  entries.flatMap codec.line

def Codec.load (codec : Codec Entry) (text : Text) : List Entry :=
  (splitLines text).filterMap codec.read

def endsLine (text : Text) : Bool :=
  decide (text = [] ∨ text.getLast? = some '\x0a')

theorem splitLines_line (text rest : Text) (unbroken : ∀ char ∈ text, isLineBreak char = false) :
    splitLines (text ++ '\x0a' :: rest) = text :: splitLines rest := by
  induction text with
  | nil => rfl
  | cons char more ih =>
    have whole := unbroken char mem_cons_self
    have later := ih fun other member => unbroken other (mem_cons_of_mem _ member)
    rw [cons_append, splitLines, later]
    simp [whole]

theorem splitLines_unended {text : Text} (unbroken : ∀ char ∈ text, isLineBreak char = false)
    (nonempty : text ≠ []) : splitLines text = [text] := by
  induction text with
  | nil => exact absurd rfl nonempty
  | cons char more ih =>
    have whole := unbroken char mem_cons_self
    rw [splitLines]
    cases more with
    | nil => simp [whole, splitLines]
    | cons next more =>
      have later := ih (fun other member => unbroken other (mem_cons_of_mem _ member))
        (cons_ne_nil next more)
      simp [whole, later]

section

variable (codec : Codec Entry)

theorem load_text_append (entries : List Entry) (tail : Text) :
    codec.load (codec.text entries ++ tail) = entries ++ codec.load tail := by
  induction entries with
  | nil => rfl
  | cons entry rest ih =>
    have split := splitLines_line (codec.write entry) (codec.text rest ++ tail)
      (codec.unbroken entry)
    have shape : codec.text (entry :: rest) ++ tail =
        codec.write entry ++ '\x0a' :: (codec.text rest ++ tail) := by
      simp [Codec.text, Codec.line]
    rw [shape, Codec.load, split, filterMap_cons_some (codec.reads entry)]
    exact congrArg (entry :: ·) ih

theorem load_torn {entry : Entry} {beginning rest : Text}
    (torn : codec.write entry = beginning ++ rest) (missing : rest ≠ []) :
    codec.load beginning = [] := by
  have unbroken : ∀ char ∈ beginning, isLineBreak char = false := by
    intro char member
    exact codec.unbroken entry char (torn ▸ mem_append_left rest member)
  by_cases empty : beginning = []
  · rw [empty]
    rfl
  · rw [Codec.load, splitLines_unended unbroken empty,
      filterMap_cons_none (codec.torn entry beginning rest torn missing), filterMap_nil]

theorem load_unended (entry : Entry) : codec.load (codec.write entry) = [entry] := by
  rw [Codec.load, splitLines_unended (codec.unbroken entry) (codec.nonempty entry),
    filterMap_cons_some (codec.reads entry), filterMap_nil]

theorem endsLine_tail {front tail : Text} (unbroken : ∀ char ∈ tail, isLineBreak char = false)
    (ends : endsLine (front ++ tail) = true) : tail = [] := by
  by_contra begun
  simp only [endsLine, decide_eq_true_eq] at ends
  rcases ends with empty | last
  · exact begun (append_eq_nil_iff.mp empty).2
  rw [getLast?_append_of_ne_nil _ begun, getLast?_eq_some_getLast begun] at last
  have whole := unbroken _ (getLast_mem begun)
  rw [Option.some.inj last] at whole
  cases whole

end

end Nebula.LineLog
