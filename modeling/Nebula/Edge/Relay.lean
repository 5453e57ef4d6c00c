import Nebula.Runs

/-!
# The edge relay

One stream through the Worker, from the moment its VLESS header is accepted. Messages of the
client wait in a queue and are handed one at a time to whatever connection is the writer by
then. The connection dialled first may end without an answer; then the relay is dialled, and
it becomes the writer.
-/

namespace Nebula.Edge

open Runs

abbrev Bytes := List UInt8

structure Request where
  version : UInt8
  tcp : Bool
  payload : Bytes

/-- What was written to a connection; once a write fails, or it is closed, no other gets in. -/
structure Connection where
  written : Bytes
  broken : Bool

/-- A write that fails may have sent some of its bytes. -/
def Connection.write (connection : Connection) (bytes : Bytes) (failed : Option Nat) :
    Connection :=
  if connection.broken then connection
  else
    match failed with
    | none => { connection with written := connection.written ++ bytes }
    | some count => { written := connection.written ++ bytes.take count, broken := true }

def dial (payload : Bytes) (failed : Option Nat) : Connection :=
  Connection.write { written := [], broken := false } payload failed

inductive Item where
  | chunk (bytes : Bytes)
  | close

def Item.bytes : Item → Bytes
  | .chunk bytes => bytes
  | .close => []

inductive Stage where
  | direct
  | relayed
  | over
  deriving DecidableEq

/-- `sent`: what the client sent after the header; `handed`: what left the queue; `given`: what the
connection in use answered, as far as the client's socket took it. -/
structure Stream where
  request : Request
  fallback : Bool
  sent : Bytes
  queue : List Item
  handed : Bytes
  current : Connection
  stage : Stage
  answered : Bool
  given : Bytes
  closed : Bool
  received : List Bytes

namespace Stream

def head (stream : Stream) : Bytes :=
  [stream.request.version, 0]

def dials (stream : Stream) : Bool :=
  decide (stream.stage = .direct) && !stream.answered && stream.fallback && stream.request.tcp

def opened (request : Request) (fallback : Bool) (failed : Option Nat) : Stream :=
  { request := request
    fallback := fallback
    sent := request.payload
    queue := []
    handed := []
    current := dial request.payload failed
    stage := .direct
    answered := false
    given := []
    closed := false
    received := [] }

end Stream

inductive Event where
  | message (bytes : Bytes)
  | hangUp
  | flush (failed : Option Nat)
  | arrive (bytes : Bytes)
  | finished (failed : Option Nat)

variable (stream : Stream)

def step : Event → Option Stream
  | .message bytes =>
    some { stream with sent := stream.sent ++ bytes, queue := stream.queue ++ [.chunk bytes] }
  | .hangUp => some { stream with queue := stream.queue ++ [.close] }
  | .flush failed =>
    match stream.queue with
    | [] => none
    | .chunk bytes :: rest =>
      some
        { stream with
          queue := rest
          handed := stream.handed ++ bytes
          current := stream.current.write bytes failed
          closed := stream.closed || (stream.current.write bytes failed).broken }
    | .close :: rest =>
      some { stream with queue := rest, current := { stream.current with broken := true } }
  | .arrive bytes =>
    if stream.stage = .over then none
    -- Sending on a closed socket throws, and the pump ends.
    else if stream.closed then some { stream with stage := .over }
    else
      some
        { stream with
          answered := true
          given := stream.given ++ bytes
          received :=
            stream.received ++ [if stream.answered then bytes else stream.head ++ bytes] }
  | .finished failed =>
    if stream.stage = .over then none
    else if stream.dials then
      -- Only the bytes after the header are written again, not the messages since.
      some { stream with stage := .relayed, current := dial stream.request.payload failed }
    else some { stream with stage := .over, closed := true }

/-- The header once, then the bytes of one connection, to which the client's bytes went in order. -/
def Whole : Prop :=
  stream.received = [] ∨
    (stream.received.flatten = stream.head ++ stream.given ∧ stream.current.written <+: stream.sent)

instance : Decidable (Whole stream) :=
  inferInstanceAs (Decidable (_ ∨ _))

/-- The relay is dialled only before any message was handed to the direct connection. -/
def nothingHanded : Event → Bool
  | .finished _ => !stream.dials || stream.handed.isEmpty
  | _ => true

structure Carried : Prop where
  sent : stream.sent =
    stream.request.payload ++ stream.handed ++ stream.queue.flatMap Item.bytes
  written : stream.current.written <+: stream.request.payload ++ stream.handed
  intact : stream.current.broken = false →
    stream.current.written = stream.request.payload ++ stream.handed
  unanswered : stream.answered = false → stream.received = [] ∧ stream.given = []
  answered : stream.answered = true → stream.received.flatten = stream.head ++ stream.given

theorem Carried.whole {stream : Stream} (carried : Carried stream) : Whole stream := by
  cases answered : stream.answered with
  | false => exact Or.inl (carried.unanswered answered).1
  | true =>
    refine Or.inr ⟨carried.answered answered, carried.written.trans ?_⟩
    rw [carried.sent]
    exact List.prefix_append _ _

variable {failed : Option Nat}

theorem write_spec {connection : Connection} {before : Bytes} {bytes : Bytes}
    (written : connection.written <+: before)
    (intact : connection.broken = false → connection.written = before) :
    (connection.write bytes failed).written <+: before ++ bytes ∧
      ((connection.write bytes failed).broken = false →
        (connection.write bytes failed).written = before ++ bytes) := by
  unfold Connection.write
  split
  · rename_i broken
    exact ⟨written.trans (List.prefix_append _ _), fun whole => by simp [broken] at whole⟩
  rename_i whole
  rw [intact (by simpa using whole)]
  cases failed with
  | none => exact ⟨List.prefix_rfl, fun _ => rfl⟩
  | some count =>
    exact ⟨(List.prefix_append_right_inj _).mpr (List.take_prefix _ _), nofun⟩

theorem dial_spec {payload : Bytes} :
    (dial payload failed).written <+: payload ∧
      ((dial payload failed).broken = false → (dial payload failed).written = payload) :=
  write_spec List.prefix_rfl fun _ => rfl

theorem opened_carried {request : Request} {fallback : Bool} :
    Carried (.opened request fallback failed) := by
  obtain ⟨written, intact⟩ := dial_spec
  exact
    { sent := by simp [Stream.opened]
      written := by simpa [Stream.opened] using written
      intact := by simpa [Stream.opened] using intact
      unanswered := fun _ => ⟨rfl, rfl⟩
      answered := fun answered => nomatch answered }

theorem step_carried {before after : Stream} {event : Event} (carried : Carried before)
    (unhanded : nothingHanded before event = true) (taken : step before event = some after) :
    Carried after := by
  cases event with
  | message | hangUp =>
    cases taken
    exact { carried with sent := by simp [carried.sent, Item.bytes] }
  | flush failed =>
    simp only [step] at taken
    split at taken
    · cases taken
    · rename_i bytes rest queue
      cases taken
      obtain ⟨written, intact⟩ := write_spec carried.written carried.intact
      have sent := carried.sent
      rw [queue] at sent
      exact
        { carried with
          sent := by simpa [Item.bytes] using sent
          written := by simpa using written
          intact := by simpa using intact }
    · rename_i rest queue
      cases taken
      have sent := carried.sent
      rw [queue] at sent
      exact
        { carried with
          sent := by simpa [Item.bytes] using sent
          intact := fun whole => nomatch whole }
  | arrive bytes =>
    simp only [step] at taken
    repeat' split at taken
    · cases taken
    · cases taken
      exact { carried with }
    · rename_i answered
      cases taken
      have received := carried.answered answered
      exact
        { carried with
          unanswered := fun none_ => nomatch none_
          answered := fun _ => by simp [received, Stream.head] }
    · rename_i unanswered
      cases taken
      obtain ⟨received, given⟩ := carried.unanswered (by simpa using unanswered)
      exact
        { carried with
          unanswered := fun none_ => nomatch none_
          answered := fun _ => by simp [received, given, Stream.head] }
  | finished failed =>
    obtain ⟨_, taken⟩ := Option.ite_none_left_eq_some.mp taken
    split at taken
    swap
    · cases taken
      exact { carried with }
    rename_i dials
    cases taken
    have handed : before.handed = [] := by simpa [nothingHanded, dials] using unhanded
    obtain ⟨written, intact⟩ := dial_spec
    exact
      { carried with
        written := by simpa [handed] using written
        intact := by simpa [handed] using intact }

/-- A stream is carried whole while the relay is dialled with `nothingHanded`. -/
theorem stream_carried_whole (request : Request) (fallback : Bool) (failed : Option Nat)
    (events : List Event)
    (meets : RunMeets step (nothingHanded · ·) events (.opened request fallback failed)) :
    AlwaysAlong step Whole events (.opened request fallback failed) :=
  alwaysAlong_of_invariant Carried Whole
    (fun _ _ _ carried unhanded taken => step_carried carried unhanded taken)
    (fun _ carried => carried.whole) opened_carried meets

def smallRequest : Request :=
  { version := 0, tcp := true, payload := [1] }

def fallenBackAtOnce : List Event :=
  [.finished none, .message [2], .flush none, .arrive [9]]

theorem stream_carried_whole_fallenBackAtOnce :
    AlwaysAlong step Whole fallenBackAtOnce (.opened smallRequest true none) :=
  stream_carried_whole smallRequest true none fallenBackAtOnce (by decide +kernel)

/-- The relay gets the first message and the third. -/
def fallenBackLater : List Event :=
  [.message [2], .flush none, .finished none, .message [3], .flush none, .arrive [9]]

theorem message_lost_fallenBackLater :
    ¬ AlwaysAlong step Whole fallenBackLater (.opened smallRequest true none) :=
  not_alwaysAlong Whole fallenBackLater _ (by decide +kernel)

end Nebula.Edge
