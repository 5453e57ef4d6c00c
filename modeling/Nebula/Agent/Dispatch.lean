import Nebula.Work
import Nebula.Agent.Ledger
import Nebula.Agent.LedgerFile

/-!
# Dispatch under idempotency keys

`dispatch_ledgered`: a key in the ledger gets the recorded response, any other runs the driver, and
what that returns is recorded before it is answered; an exception is not. The ledger is looked up
before the driver is awaited and written after it, so requests overlap between the two.

`ran` and `answered` are not stored: the driver runs begun, and the answers given.
-/

namespace Nebula.Agent

open Json Store Work Runs
open List hiding beq_eq_decide

structure DispatchRequest where
  idempotencyKey : Text
  operationKind : Text
  targetId : Text

structure DriverResponse where
  appliedGeneration : Int
  json : Text

inductive DispatchAnswer where
  | response (json : Text)
  | conflict
  | raised
  deriving DecidableEq

def recordEntry (maxEntries : Nat) (entries : Entries) (entry : StoredEntry) : Entries :=
  (remember entries entry).drop (overflow maxEntries (remember entries entry))

def cachedAnswer (entries : Entries) (request : DispatchRequest) : Option DispatchAnswer :=
  (lookup StoredEntry.idempotencyKey request.idempotencyKey entries).map fun cached =>
    if cached.operationKind ≠ request.operationKind ∨ cached.targetId ≠ request.targetId then
      .conflict
    else .response cached.responseJson

def DispatchRequest.entry (request : DispatchRequest) (response : DriverResponse) : StoredEntry :=
  { idempotencyKey := request.idempotencyKey
    operationKind := request.operationKind
    targetId := request.targetId
    appliedGeneration := response.appliedGeneration
    responseJson := response.json }

structure Dispatcher where
  maxEntries : Nat
  entries : Entries
  running : Pool DispatchRequest
  ran : List DispatchRequest
  answered : List (DispatchRequest × DispatchAnswer)

inductive DispatchEvent where
  | arrive (request : DispatchRequest)
  | returns (id : Nat) (response : DriverResponse)
  | raises (id : Nat)

namespace Dispatcher

variable (desk : Dispatcher)

def arrive (request : DispatchRequest) : Dispatcher :=
  match cachedAnswer desk.entries request with
  | some answer => { desk with answered := desk.answered ++ [(request, answer)] }
  | none =>
    { desk with
      running := desk.running.begin request
      ran := desk.ran ++ [request] }

def returned (id : Nat) (request : DispatchRequest)
    (response : DriverResponse) : Dispatcher :=
  { desk with
    entries := recordEntry desk.maxEntries desk.entries (request.entry response)
    running := desk.running.finish id
    answered := desk.answered ++ [(request, .response response.json)] }

def raised (id : Nat) (request : DispatchRequest) : Dispatcher :=
  { desk with
    running := desk.running.finish id
    answered := desk.answered ++ [(request, .raised)] }

def step : DispatchEvent → Option Dispatcher
  | .arrive request => some (desk.arrive request)
  | .returns id response =>
    (desk.running.find id).map fun request => desk.returned id request response
  | .raises id => (desk.running.find id).map fun request => desk.raised id request

end Dispatcher

theorem record_memory (process : LedgerProcess) (memory : Entries) (entry : StoredEntry) :
    (process.record memory entry).memory = some (recordEntry process.maxEntries memory entry) := by
  simp only [LedgerProcess.record, recordEntry, overflow]
  split
  · rename_i fits
    rw [Nat.sub_eq_zero_of_le fits, drop_zero]
  · rfl

/-- The fleet's agents have this ledger, seen through any store that keeps keys apart. -/
theorem record_stored (store : LedgerEntry → StoredEntry)
    (keys : ∀ first second : LedgerEntry,
      (store first).idempotencyKey = (store second).idempotencyKey ↔
        first.idempotencyKey = second.idempotencyKey)
    (ledger : Ledger) (entry : LedgerEntry) :
    (ledger.record entry).entries.map store =
      recordEntry ledger.maxEntries (ledger.entries.map store) (store entry) := by
  have same : (if (ledger.entries.any fun old => old.idempotencyKey == entry.idempotencyKey) = true
      then updateWhere (fun old => old.idempotencyKey == entry.idempotencyKey) (fun _ => entry)
        ledger.entries
      else ledger.entries ++ [entry]).map store =
      remember (ledger.entries.map store) (store entry) := by
    have known : ((ledger.entries.map store).any fun record =>
        decide (record.idempotencyKey = (store entry).idempotencyKey)) =
        ledger.entries.any fun old => old.idempotencyKey == entry.idempotencyKey := by
      rw [any_map]
      congr 1
      funext old
      simp [keys, beq_eq_decide]
    rw [remember, put, known]
    split
    · simp only [updateWhere, map_map]
      apply map_congr_left
      intro old _
      simp only [Function.comp_def, keys]
      by_cases own : old.idempotencyKey = entry.idempotencyKey
      · simp [own]
      · simp [own]
    · simp
  simp only [Ledger.record, recordEntry, overflow, map_drop]
  rw [← same, length_map]

/-! ## One run for a key -/

section

variable (key : Text)

def DispatchRequest.isFor (request : DispatchRequest) : Bool :=
  decide (request.idempotencyKey = key)

variable (desk : Dispatcher)

def Dispatcher.knows : Bool :=
  desk.entries.any fun entry => decide (entry.idempotencyKey = key)

def Dispatcher.runs : Bool :=
  desk.running.jobs.any fun job => job.2.isFor key

/-- The driver ran once at most, and requests of one kind and target got one answer. -/
def AppliedOnce : Prop :=
  desk.ran.countP (DispatchRequest.isFor key) ≤ 1 ∧
    ∀ first ∈ desk.answered, ∀ second ∈ desk.answered,
      first.1.isFor key = true → second.1.isFor key = true →
      first.1.operationKind = second.1.operationKind → first.1.targetId = second.1.targetId →
      first.2 = second.2
  deriving Decidable

def retained : DispatchEvent → Bool
  | .returns id response =>
    match desk.running.find id with
    | some request =>
      !(request.isFor key || desk.knows key) ||
        (desk.returned id request response).knows key
    | none => true
  | .arrive _ | .raises _ => true

/-- Requests of the key come in while none of it runs, and their driver returns. -/
def oneAtATime : DispatchEvent → Bool
  | .arrive request => !(request.isFor key && desk.runs key)
  | .raises id => (desk.running.find id).all fun request => !request.isFor key
  | .returns _ _ => true

structure Unused : Prop where
  unknown : ∀ entry ∈ desk.entries, entry.idempotencyKey ≠ key
  idle : ∀ job ∈ desk.running.jobs, job.2.isFor key = false
  never : desk.ran.countP (DispatchRequest.isFor key) = 0
  silent : ∀ answer ∈ desk.answered, answer.1.isFor key = false

def StoredEntry.answers (entry : StoredEntry) (request : DispatchRequest) : DispatchAnswer :=
  if entry.operationKind ≠ request.operationKind ∨ entry.targetId ≠ request.targetId then .conflict
  else .response entry.responseJson

inductive KeyPhase : Prop where
  | unused (unused : Unused key desk)
  | running (id : Nat) (unknown : ∀ entry ∈ desk.entries, entry.idempotencyKey ≠ key)
    (runs : ∃ job ∈ desk.running.jobs, job.2.isFor key = true)
    (only : ∀ job ∈ desk.running.jobs, job.2.isFor key = true → job.1 = id)
    (once : desk.ran.countP (DispatchRequest.isFor key) = 1)
    (silent : ∀ answer ∈ desk.answered, answer.1.isFor key = false)
  | settled (entry : StoredEntry)
    (known : ∃ kept ∈ desk.entries, kept.idempotencyKey = key)
    (only : ∀ kept ∈ desk.entries, kept.idempotencyKey = key → kept = entry)
    (idle : ∀ job ∈ desk.running.jobs, job.2.isFor key = false)
    (once : desk.ran.countP (DispatchRequest.isFor key) = 1)
    (same : ∀ answer ∈ desk.answered, answer.1.isFor key = true → answer.2 = entry.answers answer.1)

theorem keyPhase_appliedOnce (phase : KeyPhase key desk) :
    AppliedOnce key desk := by
  cases phase with
  | unused unused =>
    refine ⟨by rw [unused.never]; exact Nat.zero_le 1, ?_⟩
    intro first member _ _ own
    rw [unused.silent first member] at own
    cases own
  | running id unknown runs only once silent =>
    refine ⟨le_of_eq once, ?_⟩
    intro first member _ _ own
    rw [silent first member] at own
    cases own
  | settled entry known only idle once same =>
    refine ⟨le_of_eq once, ?_⟩
    intro first firstMember second secondMember firstOwn secondOwn kinds targets
    rw [same first firstMember firstOwn, same second secondMember secondOwn,
      StoredEntry.answers, StoredEntry.answers, kinds, targets]

theorem keyPhase_frame {before : Dispatcher} (after : Dispatcher) (phase : KeyPhase key before)
    (entries : ∀ entry ∈ after.entries, entry.idempotencyKey = key → entry ∈ before.entries)
    (kept : before.knows key = true → after.knows key = true)
    (jobs : ∀ job, job.2.isFor key = true → (job ∈ after.running.jobs ↔ job ∈ before.running.jobs))
    (runs : after.ran.countP (DispatchRequest.isFor key) =
      before.ran.countP (DispatchRequest.isFor key))
    (answers : ∀ answer ∈ after.answered, answer.1.isFor key = true → answer ∈ before.answered) :
    KeyPhase key after := by
  have idleAfter : (∀ job ∈ before.running.jobs, job.2.isFor key = false) →
      ∀ job ∈ after.running.jobs, job.2.isFor key = false := by
    intro idle job member
    by_contra own
    rw [Bool.not_eq_false] at own
    rw [idle job ((jobs job own).mp member)] at own
    cases own
  have silentAfter : (∀ answer ∈ before.answered, answer.1.isFor key = false) →
      ∀ answer ∈ after.answered, answer.1.isFor key = false := by
    intro silent answer member
    by_contra own
    rw [Bool.not_eq_false] at own
    rw [silent answer (answers answer member own)] at own
    cases own
  have unknownAfter : (∀ entry ∈ before.entries, entry.idempotencyKey ≠ key) →
      ∀ entry ∈ after.entries, entry.idempotencyKey ≠ key :=
    fun unknown entry member own => unknown entry (entries entry member own) own
  cases phase with
  | unused unused =>
    exact .unused ⟨unknownAfter unused.unknown, idleAfter unused.idle, runs.trans unused.never,
      silentAfter unused.silent⟩
  | running id unknown running only once silent =>
    obtain ⟨job, member, own⟩ := running
    exact .running id (unknownAfter unknown) ⟨job, (jobs job own).mpr member, own⟩
      (fun other member own => only other ((jobs other own).mp member) own)
      (runs.trans once) (silentAfter silent)
  | settled entry known only idle once same =>
    obtain ⟨found, member, own⟩ := known
    have present : after.knows key = true :=
      kept (any_eq_true.mpr ⟨found, member, by simpa using own⟩)
    obtain ⟨still, stillMember, stillOwn⟩ := any_eq_true.mp present
    exact .settled entry ⟨still, stillMember, by simpa using stillOwn⟩
      (fun other otherMember otherOwn => only other (entries other otherMember otherOwn) otherOwn)
      (idleAfter idle) (runs.trans once)
      (fun answer answerMember answerOwn =>
        same answer (answers answer answerMember answerOwn) answerOwn)

end

section

variable {key : Text} {desk : Dispatcher}

theorem cachedAnswer_none {desk : Dispatcher} {request : DispatchRequest}
    (unknown : ∀ entry ∈ desk.entries, entry.idempotencyKey ≠ request.idempotencyKey) :
    cachedAnswer desk.entries request = none := by
  unfold cachedAnswer
  cases found : lookup StoredEntry.idempotencyKey request.idempotencyKey desk.entries with
  | none => rfl
  | some cached =>
    obtain ⟨member, own⟩ := lookup_mem found
    exact absurd own (unknown cached member)

variable {request : DispatchRequest}

theorem mem_answered_append {answered : List (DispatchRequest × DispatchAnswer)}
    {answer : DispatchAnswer} (other : request.isFor key = false) :
    ∀ given ∈ answered ++ [(request, answer)], given.1.isFor key = true → given ∈ answered := by
  intro given member own
  rcases mem_append.mp member with old | new
  · exact old
  · rw [mem_singleton.mp new] at own
    rw [other] at own
    cases own

theorem arrive_other {request : DispatchRequest} (phase : KeyPhase key desk)
    (other : request.isFor key = false) : KeyPhase key (desk.arrive request) := by
  unfold Dispatcher.arrive
  split
  · exact keyPhase_frame key _ phase (fun _ member _ => member) id (fun _ _ => Iff.rfl) rfl
      (mem_answered_append other)
  refine keyPhase_frame key _ phase (fun _ member _ => member) id ?_ ?_ (fun _ member _ => member)
  · intro job own
    rw [desk.running.mem_begin request job]
    refine ⟨fun member => member.resolve_right ?_, Or.inl⟩
    rintro rfl
    rw [other] at own
    cases own
  · simp [countP_append, other]

theorem arrive_own {request : DispatchRequest} (phase : KeyPhase key desk)
    (own : request.isFor key = true) (alone : desk.runs key = false) :
    KeyPhase key (desk.arrive request) := by
  have named : request.idempotencyKey = key := by simpa [DispatchRequest.isFor] using own
  unfold Dispatcher.arrive
  cases phase with
  | unused unused =>
    rw [cachedAnswer_none (named ▸ unused.unknown)]
    refine .running desk.running.nextId unused.unknown
      ⟨(desk.running.nextId, request), (desk.running.mem_begin request _).mpr (Or.inr rfl), own⟩
      ?_ ?_ unused.silent
    · intro job member mine
      rcases (desk.running.mem_begin request job).mp member with old | new
      · rw [unused.idle job old] at mine
        cases mine
      · rw [new]
    · simp [countP_append, unused.never, own]
  | running id unknown runs only once silent =>
    obtain ⟨job, member, mine⟩ := runs
    have busy : desk.runs key = true := any_eq_true.mpr ⟨job, member, mine⟩
    rw [alone] at busy
    cases busy
  | settled entry known only idle once same =>
    obtain ⟨kept, member, own⟩ := known
    obtain ⟨cached, found⟩ := lookup_isSome_of_mem
      request.idempotencyKey desk.entries member (own.trans named.symm)
    obtain ⟨cachedMember, cachedOwn⟩ := lookup_mem found
    have answer : cachedAnswer desk.entries request = some (entry.answers request) := by
      rw [cachedAnswer, found, only cached cachedMember (cachedOwn.trans named)]
      rfl
    rw [answer]
    refine .settled entry ⟨kept, member, own⟩ only idle once ?_
    intro answer member mine
    rcases mem_append.mp member with old | new
    · exact same answer old mine
    · rw [mem_singleton.mp new]

theorem mem_recordEntry {maxEntries : Nat} {entries : Entries} {entry kept : StoredEntry}
    (member : kept ∈ recordEntry maxEntries entries entry) :
    (kept ∈ entries ∧ kept.idempotencyKey ≠ entry.idempotencyKey) ∨ kept = entry :=
  mem_put (mem_of_mem_drop member)

theorem finish_other (numbered : desk.running.Numbered) {id : Nat}
    (found : desk.running.find id = some request) (other : request.isFor key = false)
    (job : Nat × DispatchRequest) (own : job.2.isFor key = true) :
    job ∈ (desk.running.finish id).jobs ↔ job ∈ desk.running.jobs := by
  rw [desk.running.mem_finish]
  refine ⟨And.left, fun member => ⟨member, ?_⟩⟩
  intro same
  have mine := desk.running.find_of_mem numbered member
  rw [same, found] at mine
  rw [Option.some.inj mine] at other
  rw [other] at own
  cases own

theorem returned_own {id : Nat} {response : DriverResponse}
    (found : desk.running.find id = some request) (phase : KeyPhase key desk)
    (own : request.isFor key = true) (kept : (desk.returned id request response).knows key = true) :
    KeyPhase key (desk.returned id request response) := by
  have member := desk.running.find_mem id request found
  cases phase with
  | unused unused =>
    have idle := unused.idle _ member
    rw [own] at idle
    cases idle
  | running first unknown runs only once silent =>
    have mine : id = first := only _ member own
    obtain ⟨still, stillMember, stillOwn⟩ := any_eq_true.mp kept
    refine .settled (request.entry response) ⟨still, stillMember, by simpa using stillOwn⟩ ?_ ?_
      once ?_
    · intro entry inEntries named
      rcases mem_recordEntry inEntries with old | new
      · exact absurd named (unknown entry old.1)
      · exact new
    · intro job inJobs
      by_contra busy
      rw [Bool.not_eq_false] at busy
      obtain ⟨old, differs⟩ := (desk.running.mem_finish id job).mp inJobs
      exact differs ((only job old busy).trans mine.symm)
    · intro answer inAnswers named
      rcases mem_append.mp inAnswers with old | new
      · rw [silent answer old] at named
        cases named
      · rw [mem_singleton.mp new]
        simp [StoredEntry.answers, DispatchRequest.entry]
  | settled entry known only idle once same =>
    have stopped := idle _ member
    rw [own] at stopped
    cases stopped

end

/-- If its entry is retained and the key is served `oneAtATime`, the driver runs once for it. -/
theorem applied_once (key : Text) (events : List DispatchEvent) (start : Dispatcher)
    (numbered : start.running.Numbered) (unused : Unused key start)
    (meets : RunMeets Dispatcher.step
      (fun desk event => retained key desk event = true ∧ oneAtATime key desk event = true)
      events start) :
    AlwaysAlong Dispatcher.step (AppliedOnce key) events start := by
  refine alwaysAlong_of_invariant
    (fun desk => desk.running.Numbered ∧ KeyPhase key desk) (AppliedOnce key) ?_
    (fun desk holds => keyPhase_appliedOnce key desk holds.2)
    ⟨numbered, .unused unused⟩ meets
  intro desk event next holds meetsStep taken
  cases event with
  | arrive request =>
    cases taken
    constructor
    · unfold Dispatcher.arrive
      split
      · exact holds.1
      · exact desk.running.numbered_begin holds.1
    · cases own : request.isFor key with
      | false => exact arrive_other holds.2 own
      | true =>
        exact arrive_own holds.2 own (by simpa [oneAtATime, own] using meetsStep.2)
  | returns id response =>
    obtain ⟨request, found, same⟩ := Option.map_eq_some_iff.mp taken
    subst same
    refine ⟨desk.running.numbered_finish holds.1, ?_⟩
    cases own : request.isFor key with
    | false =>
      refine keyPhase_frame key _ holds.2 ?_ ?_ (finish_other holds.1 found own) rfl
        (mem_answered_append own)
      swap
      · intro known
        simpa [retained, found, own, known] using meetsStep.1
      intro entry member named
      rcases mem_recordEntry member with old | new
      · exact old.1
      rw [new] at named
      have mine : request.isFor key = true := by
        simpa [DispatchRequest.isFor, DispatchRequest.entry] using named
      rw [own] at mine
      cases mine
    | true =>
      apply returned_own found holds.2 own
      simpa [retained, found, own] using meetsStep.1
  | raises id =>
    obtain ⟨request, found, same⟩ := Option.map_eq_some_iff.mp taken
    subst same
    have other : request.isFor key = false := by simpa [oneAtATime, found] using meetsStep.2
    exact ⟨desk.running.numbered_finish holds.1,
      keyPhase_frame key _ holds.2 (fun _ member _ => member) (fun known => known)
        (finish_other holds.1 found other) rfl
        (mem_answered_append other)⟩

def newDispatcher (maxEntries : Nat) : Dispatcher :=
  { maxEntries := maxEntries
    entries := []
    running := .empty
    ran := []
    answered := [] }

def sentRequest : DispatchRequest :=
  { idempotencyKey := ['k']
    operationKind := ['p']
    targetId := ['t'] }

def driverResponse (generation : Int) : DriverResponse :=
  { appliedGeneration := generation, json := decimal generation }

def retriedAfter : List DispatchEvent :=
  [.arrive sentRequest, .returns 0 (driverResponse 1), .arrive sentRequest]

def retriedMeanwhile : List DispatchEvent :=
  [.arrive sentRequest, .arrive sentRequest, .returns 0 (driverResponse 1),
    .returns 1 (driverResponse 1)]

theorem applied_once_retriedAfter :
    AlwaysAlong Dispatcher.step (AppliedOnce ['k']) retriedAfter (newDispatcher 1000) ∧
      ∃ final, runEvents Dispatcher.step retriedAfter (newDispatcher 1000) = some final ∧
        final.answered.length = 2 ∧ final.ran.length = 1 :=
  ⟨applied_once ['k'] retriedAfter (newDispatcher 1000) Pool.numbered_empty
      ⟨forall_mem_nil _, forall_mem_nil _, rfl, forall_mem_nil _⟩
      (by decide +kernel),
    runEvents_exists Dispatcher.step _ _ _ (by decide +kernel)⟩

theorem applied_twice_retriedMeanwhile :
    RunMeets Dispatcher.step (fun desk event => retained ['k'] desk event = true)
        retriedMeanwhile (newDispatcher 1000) ∧
      ¬ AlwaysAlong Dispatcher.step (AppliedOnce ['k']) retriedMeanwhile (newDispatcher 1000) :=
  ⟨by decide +kernel, not_alwaysAlong _ _ _ (by decide +kernel)⟩

end Nebula.Agent
