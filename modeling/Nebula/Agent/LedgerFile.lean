import Nebula.Runs
import Nebula.Store
import Nebula.JsonReader
import Nebula.LineLog

/-!
# The ledger on disk

`ledger.py`, character by character: a line of JSON is appended for each entry, the file is read
back at the start, and compaction replaces it in one step. A kill may cut an append short at any
character, or come between append and compaction.

A field of another type than the agent writes is not read here.
-/

namespace Nebula.Agent

open Json LineLog Store Runs List

structure StoredEntry where
  idempotencyKey : Text
  operationKind : Text
  targetId : Text
  appliedGeneration : Int
  responseJson : Text
  deriving DecidableEq

def keyField : Text := "idempotency_key".toList

def kindField : Text := "operation_kind".toList

def targetField : Text := "target_id".toList

def generationField : Text := "applied_generation".toList

def responseField : Text := "response_json".toList

def entryFields : List Text :=
  [keyField, kindField, targetField, generationField, responseField]

def StoredEntry.asdict (entry : StoredEntry) : Fields :=
  [(keyField, .text entry.idempotencyKey), (kindField, .text entry.operationKind),
    (targetField, .text entry.targetId), (generationField, .int entry.appliedGeneration),
    (responseField, .text entry.responseJson)]

def fieldValue (payload : Fields) (name : Text) : Option FlatValue :=
  (payload.reverse.find? fun field => decide (field.1 = name)).map Prod.snd

def sameFields (payload : Fields) : Bool :=
  (payload.all fun field => decide (field.1 ∈ entryFields)) &&
    entryFields.all fun name => payload.any fun field => decide (field.1 = name)

def parseEntry (line : Text) : Option StoredEntry :=
  match readObject line with
  | none => none
  | some payload =>
    if sameFields payload then
      match fieldValue payload keyField, fieldValue payload kindField,
        fieldValue payload targetField, fieldValue payload generationField,
        fieldValue payload responseField with
      | some (.text key), some (.text kind), some (.text target), some (.int generation),
        some (.text response) => some ⟨key, kind, target, generation, response⟩
      | _, _, _, _, _ => none
    else none

theorem printable_unbroken {char : Char} (shown : printable char = true) :
    isLineBreak char = false := by
  have breaks : ∀ other ∈ lineBreaks, (!printable other) = true := all_eq_true.mp (by decide)
  by_contra broken
  have listed : char ∈ lineBreaks := by simpa [isLineBreak] using broken
  have unprinted := breaks char listed
  rw [shown] at unprinted
  cases unprinted

/-- `json.dumps(asdict(entry))` and `_parse_entry`. -/
def entryCodec : Codec StoredEntry where
  write entry := writtenObject entry.asdict
  read := parseEntry
  unbroken entry char member :=
    printable_unbroken (writtenObject_printable char member)
  nonempty _ := List.cons_ne_nil _ _
  reads entry := by
    rw [parseEntry, readObject, run_writtenObject]
    rfl
  torn entry beginning rest torn missing := by
    rw [parseEntry, readObject_torn torn missing]

/-! ## The process and its file -/

abbrev Entries := List StoredEntry

/-- `_entries` and `_order` in one: the entries in the order their keys first came. -/
def remember (entries : Entries) (entry : StoredEntry) : Entries :=
  put StoredEntry.idempotencyKey entry entries

def replay (entries : Entries) : Entries :=
  entries.foldl remember []

def loadLedger (file : Text) : Entries :=
  replay (entryCodec.load file)

def overflow (maxEntries : Nat) (entries : Entries) : Nat :=
  entries.length - maxEntries

/-- `completed` and `unended` are not stored: what a restart has to find, and the entry whose append
was cut off just before its line break. -/
structure LedgerProcess where
  maxEntries : Nat
  file : Text
  memory : Option Entries
  completed : Entries
  unended : Option StoredEntry

inductive LedgerEvent where
  | start
  | record (entry : StoredEntry)
  /-- Killed in the append, with that many of the line's characters written. -/
  | cutShort (entry : StoredEntry) (written : Nat)
  /-- Killed after the append, before a compaction replaced the file. -/
  | uncompacted (entry : StoredEntry)
  | kill

def appendToDisk (file : Text) (entry : StoredEntry) : Text :=
  file ++ entryCodec.line entry

variable (process : LedgerProcess)

def LedgerProcess.record (memory : Entries) (entry : StoredEntry) :
    LedgerProcess :=
  let entries := remember memory entry
  let completed := remember process.completed entry
  if entries.length ≤ process.maxEntries then
    { process with
      file := appendToDisk process.file entry
      memory := some entries
      completed := completed }
  else
    let evicted := entries.take (overflow process.maxEntries entries)
    let kept := entries.drop (overflow process.maxEntries entries)
    { process with
      file := entryCodec.text kept
      memory := some kept
      completed := completed.filter fun old =>
        decide (old.idempotencyKey ∉ evicted.map StoredEntry.idempotencyKey) }

def LedgerProcess.step : LedgerEvent → Option LedgerProcess
  | .start =>
    match process.memory with
    | none => some { process with memory := some (loadLedger process.file) }
    | some _ => none
  | .record entry => process.memory.map fun memory => process.record memory entry
  | .cutShort entry written =>
    if written < (entryCodec.line entry).length then
      process.memory.map fun _ =>
        { process with
          file := process.file ++ (entryCodec.line entry).take written
          memory := none
          unended := if (entryCodec.line entry).length = written + 1 then some entry else none }
    else none
  | .uncompacted entry =>
    process.memory.map fun _ =>
      { process with
        file := appendToDisk process.file entry
        memory := none
        completed := remember process.completed entry }
  | .kill => process.memory.map fun _ => { process with memory := none }

/-- What was completed and not evicted is in the ledger, unless an entry cut off just before its
line break took its key. -/
def LedgerProcess.Remembers : Prop :=
  ∀ memory ∈ process.memory, ∀ entry ∈ process.completed,
    lookup StoredEntry.idempotencyKey entry.idempotencyKey memory = some entry ∨
      ∃ later ∈ process.unended, later.idempotencyKey = entry.idempotencyKey ∧
        lookup StoredEntry.idempotencyKey entry.idempotencyKey memory = some later
  deriving Decidable

/-- Entries are appended where the file is empty or ends in a line break. -/
def appendsLine : LedgerEvent → Bool
  | .record _ | .cutShort _ _ | .uncompacted _ => endsLine process.file
  | .start | .kill => true

section

variable (entries : Entries)

theorem replay_append (entry : StoredEntry) :
    replay (entries ++ [entry]) = remember (replay entries) entry := by
  simp [replay]

theorem replay_nodup : ((replay entries).map StoredEntry.idempotencyKey).Nodup := by
  induction entries using reverseRecOn with
  | nil => exact nodup_nil
  | append_singleton earlier entry ih =>
    rw [replay_append]
    exact put_nodup StoredEntry.idempotencyKey entry _ ih

theorem replay_of_nodup
    (distinct : (entries.map StoredEntry.idempotencyKey).Nodup) : replay entries = entries := by
  induction entries using reverseRecOn with
  | nil => rfl
  | append_singleton earlier entry ih =>
    rw [map_append, map_singleton] at distinct
    obtain ⟨earlierDistinct, _, apart⟩ := nodup_append.mp distinct
    have absent : (earlier.any fun old =>
        decide (old.idempotencyKey = entry.idempotencyKey)) = false := by
      rw [any_eq_false]
      intro old member
      simpa using apart _ (mem_map_of_mem member) _ (mem_singleton_self _)
    rw [replay_append, ih earlierDistinct, remember, put, absent]
    rfl

end

def Tail (unended : Option StoredEntry) (tail : Text) : Prop :=
  match unended with
  | none => tail = [] ∨ ∃ entry rest, entryCodec.write entry = tail ++ rest ∧ rest ≠ []
  | some entry => tail = entryCodec.write entry

theorem load_tail {unended : Option StoredEntry} {tail : Text} (left : Tail unended tail) :
    entryCodec.load tail = unended.toList := by
  cases unended with
  | none =>
    rcases left with rfl | ⟨entry, rest, torn, missing⟩
    · rfl
    · exact load_torn entryCodec torn missing
  | some entry =>
    cases left
    exact load_unended entryCodec entry

theorem tail_unbroken {unended : Option StoredEntry} {tail : Text} (left : Tail unended tail) :
    ∀ char ∈ tail, isLineBreak char = false := by
  intro char member
  cases unended with
  | none =>
    rcases left with rfl | ⟨entry, rest, torn, _⟩
    · cases member
    · exact entryCodec.unbroken entry char (torn ▸ mem_append_left rest member)
  | some entry =>
    cases left
    exact entryCodec.unbroken entry char member

structure Recorded (process : LedgerProcess) (written : Entries) (tail : Text) : Prop where
  file : process.file = entryCodec.text written ++ tail
  left : Tail process.unended tail
  memory : ∀ memory ∈ process.memory, memory = replay (written ++ process.unended.toList)
  completed : ∀ entry ∈ process.completed,
    lookup StoredEntry.idempotencyKey entry.idempotencyKey (replay written) = some entry

section

variable (process : LedgerProcess) (written : Entries) (tail : Text)

section

variable (recorded : Recorded process written tail)
include recorded

variable {process written}

theorem recorded_whole
    (ends : endsLine process.file = true) : tail = [] ∧ process.unended = none := by
  have unbroken := tail_unbroken recorded.left
  have empty : tail = [] := endsLine_tail unbroken (recorded.file ▸ ends)
  refine ⟨empty, ?_⟩
  have left := recorded.left
  cases cut : process.unended with
  | none => rfl
  | some entry =>
    rw [cut, empty] at left
    exact absurd left.symm (entryCodec.nonempty entry)

theorem completed_remember (entry old : StoredEntry)
    (member : old ∈ remember process.completed entry) :
    lookup StoredEntry.idempotencyKey old.idempotencyKey (replay (written ++ [entry])) =
      some old := by
  rw [replay_append, remember, lookup_put]
  rcases mem_put member with kept | new
  · rw [if_neg (Ne.symm kept.2)]
    exact recorded.completed old kept.1
  · rw [new, if_pos rfl]

end

theorem appendToDisk_text (recorded : Recorded process written []) {entry : StoredEntry} :
    appendToDisk process.file entry = entryCodec.text (written ++ [entry]) ++ [] := by
  simp [appendToDisk, recorded.file, Codec.text]

theorem recorded_record {memory : Entries} (running : process.memory = some memory)
    (recorded : Recorded process written []) (whole : process.unended = none)
    (entry : StoredEntry) :
    ∃ later, Recorded (process.record memory entry) later [] := by
  have now : remember memory entry = replay (written ++ [entry]) := by
    rw [replay_append, recorded.memory memory running, whole]
    simp
  simp only [LedgerProcess.record]
  split
  · refine ⟨written ++ [entry], appendToDisk_text process written recorded, recorded.left, ?_,
      completed_remember [] recorded entry⟩
    simpa [whole] using now
  · -- The file is written anew, without the entries that do not fit.
    have distinct : ((remember memory entry).map StoredEntry.idempotencyKey).Nodup := by
      rw [now]
      exact replay_nodup _
    have same := replay_of_nodup ((remember memory entry).drop
      (overflow process.maxEntries (remember memory entry)))
      (distinct.sublist ((drop_sublist _ _).map _))
    refine ⟨(remember memory entry).drop (overflow process.maxEntries (remember memory entry)),
      (append_nil _).symm, recorded.left, ?_, ?_⟩
    · rintro after ⟨⟩
      simpa [whole] using same.symm
    intro old member
    obtain ⟨kept, stays⟩ := mem_filter.mp member
    rw [same, lookup_drop StoredEntry.idempotencyKey (by simpa using stays), now]
    exact completed_remember [] recorded entry old kept

theorem step_recorded (event : LedgerEvent) (next : LedgerProcess)
    (recorded : Recorded process written tail) (meets : appendsLine process event = true)
    (taken : process.step event = some next) :
    ∃ later rest, Recorded next later rest := by
  cases event with
  | start =>
    simp only [LedgerProcess.step] at taken
    split at taken
    · cases taken
      refine ⟨written, tail, ?_⟩
      refine ⟨recorded.file, recorded.left, ?_, recorded.completed⟩
      rintro memory ⟨⟩
      rw [loadLedger, recorded.file, load_text_append, load_tail recorded.left]
    · cases taken
  | record entry =>
    obtain ⟨rfl, whole⟩ := recorded_whole tail recorded meets
    obtain ⟨memory, running, same⟩ := Option.map_eq_some_iff.mp taken
    obtain ⟨later, after⟩ := recorded_record process written running recorded whole entry
    exact ⟨later, [], same ▸ after⟩
  | cutShort entry count =>
    obtain ⟨rfl, _⟩ := recorded_whole tail recorded meets
    obtain ⟨short, taken⟩ := Option.ite_none_right_eq_some.mp taken
    obtain ⟨memory, _, same⟩ := Option.map_eq_some_iff.mp taken
    have size : (entryCodec.line entry).length = (entryCodec.write entry).length + 1 := by
      simp [Codec.line]
    have beginning : (entryCodec.line entry).take count =
        (entryCodec.write entry).take count := by
      rw [Codec.line, take_append_of_le_length (by omega)]
    subst same
    refine ⟨written, (entryCodec.line entry).take count,
      by rw [recorded.file, append_nil], ?_, by simp, recorded.completed⟩
    rw [beginning, size]
    by_cases last : (entryCodec.write entry).length + 1 = count + 1
    · rw [if_pos last]
      exact take_of_length_le (by omega)
    rw [if_neg last]
    refine Or.inr ⟨entry, (entryCodec.write entry).drop count, (take_append_drop count _).symm, ?_⟩
    intro nothing
    have none : (entryCodec.write entry).length - count = 0 := by
      rw [← length_drop, nothing, length_nil]
    omega
  | uncompacted entry =>
    obtain ⟨rfl, _⟩ := recorded_whole tail recorded meets
    obtain ⟨memory, _, same⟩ := Option.map_eq_some_iff.mp taken
    subst same
    exact ⟨written ++ [entry], [], appendToDisk_text process written recorded,
      recorded.left, by simp, completed_remember [] recorded entry⟩
  | kill =>
    obtain ⟨memory, _, same⟩ := Option.map_eq_some_iff.mp taken
    subst same
    exact ⟨written, tail, recorded.file, recorded.left, by simp, recorded.completed⟩

end

def newLedger (maxEntries : Nat) : LedgerProcess :=
  { maxEntries := maxEntries
    file := []
    memory := none
    completed := []
    unended := none }

/-- While `appendsLine`, the ledger has the latest value of all that was completed and not evicted.
-/
theorem ledger_remembers (maxEntries : Nat) (events : List LedgerEvent)
    (meets : RunMeets LedgerProcess.step
      (appendsLine · ·) events (newLedger maxEntries)) :
    AlwaysAlong LedgerProcess.step LedgerProcess.Remembers events (newLedger maxEntries) := by
  have new : Recorded (newLedger maxEntries) [] [] :=
    ⟨rfl, Or.inl rfl, by simp [newLedger], forall_mem_nil _⟩
  refine alwaysAlong_of_invariant
    (fun process => ∃ written tail, Recorded process written tail) LedgerProcess.Remembers ?_ ?_
    ⟨[], [], new⟩ meets
  · rintro process event next ⟨written, tail, recorded⟩ meetsStep taken
    exact step_recorded process written tail event next recorded meetsStep taken
  rintro process ⟨written, tail, recorded⟩
  intro memory running entry member
  have found := recorded.completed entry member
  rw [recorded.memory memory running]
  cases cut : process.unended with
  | none => exact Or.inl (by simpa using found)
  | some later =>
    rw [Option.toList_some, replay_append, remember, lookup_put]
    by_cases same : later.idempotencyKey = entry.idempotencyKey
    · exact Or.inr ⟨later, rfl, same, by rw [if_pos same]⟩
    · exact Or.inl (by rw [if_neg same, found])

def provisioned (key : String) : StoredEntry :=
  { idempotencyKey := key.toList
    operationKind := "provision_device".toList
    targetId := "0b0e7d52-7a2c-4c52-9c53-0d6f6b3f3a11".toList
    appliedGeneration := 1
    responseJson := "\x7b\"applied_generation\":1\x7d".toList }

def firstEntry : StoredEntry :=
  provisioned "3f3b8f0e-6f1a-4d55-8e0c-5d8f2a9b7c01"

def secondEntry : StoredEntry :=
  provisioned "9c2d1e4f-0a7b-4c3d-b2e1-6f5a4d3c2b02"

def killedInSecond : List LedgerEvent :=
  [.start, .record firstEntry, .cutShort secondEntry 40, .start]

/-- The first append is cut off, and the second is made after the restart. -/
def appendedAfterKill (written : Nat) : List LedgerEvent :=
  [.start, .cutShort firstEntry written, .start, .record secondEntry, .kill, .start]

theorem ledger_remembers_killedInSecond :
    AlwaysAlong LedgerProcess.step LedgerProcess.Remembers killedInSecond (newLedger 1000) ∧
      ∃ final, runEvents LedgerProcess.step killedInSecond (newLedger 1000) = some final ∧
        final.memory = some [firstEntry] :=
  ⟨ledger_remembers 1000 killedInSecond (by decide +kernel),
    runEvents_exists LedgerProcess.step _ _ _ (by decide +kernel)⟩

/-- What is appended to a cut-off line is lost, and so is a line that lacks only its break. -/
theorem ledger_forgets_appendedAfterKill :
    ¬ AlwaysAlong LedgerProcess.step LedgerProcess.Remembers (appendedAfterKill 40)
        (newLedger 1000) ∧
      ¬ AlwaysAlong LedgerProcess.step LedgerProcess.Remembers
        (appendedAfterKill (entryCodec.write firstEntry).length) (newLedger 1000) :=
  ⟨not_alwaysAlong _ _ _ (by decide +kernel),
    not_alwaysAlong _ _ _ (by decide +kernel)⟩

end Nebula.Agent
