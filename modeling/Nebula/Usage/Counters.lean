import Nebula.ControlPlane.Usage
import Nebula.Metering

/-!
# Reading a credential's counters

`usage/counters.py`, `usage/poll.py` and the agent's `usage.py`, for one credential on any number of
servers. A server's counter starts again, disappears and comes back as processes restart and peers
are removed. A poll reads the servers one after the other and records all it read at its end. A
change to a server is bracketed: a read before it, a read after it, and the counters that are gone
are forgotten. Any number of these run at once.

A read is stamped when it is asked for and takes its figures later.
-/

namespace Nebula.Usage

open Schema Store ControlPlane

inductive Direction where
  | rx
  | tx

structure Bytes where
  rx : Nat
  tx : Nat
  deriving DecidableEq

def Bytes.of (bytes : Bytes) : Direction → Nat
  | .rx => bytes.rx
  | .tx => bytes.tx

def Bytes.zero : Bytes :=
  ⟨0, 0⟩

def Bytes.add (first second : Bytes) : Bytes :=
  ⟨first.rx + second.rx, first.tx + second.tx⟩

@[simp] theorem Bytes.of_zero (direction : Direction) : Bytes.zero.of direction = 0 := by
  cases direction <;> rfl

@[simp] theorem Bytes.of_add (first second : Bytes) (direction : Direction) :
    (first.add second).of direction = first.of direction + second.of direction := by
  cases direction <;> rfl

/-- What a server serves the credential: counters that are gone, by end value, and the one listed
now. -/
structure Counter where
  ended : Bytes
  running : Option Bytes

def Counter.served (counter : Counter) : Bytes :=
  counter.ended.add (counter.running.getD .zero)

structure Read where
  serverId : Uuid
  askedAt : Instant

inductive Found where
  | unread
  | missing
  | listed (value : Bytes)
  deriving DecidableEq

/-- What a read found. `served` is all that any server had served by then; no step looks
at it. -/
structure Taken where
  serverId : Uuid
  collectedAt : Instant
  found : Found
  served : Bytes

structure CounterReading where
  samples : List UsageSample
  sourcesRead : List Protocol
  collectedAt : Instant

def Taken.reading (taken : Taken) (protocol : Protocol) (identity : Identity) :
    CounterReading where
  samples :=
    match taken.found with
    | .listed value => [⟨protocol, identity, value.rx, value.tx, taken.collectedAt⟩]
    | .unread | .missing => []
  sourcesRead :=
    match taken.found with
    | .unread => []
    | .missing | .listed _ => [protocol]
  collectedAt := taken.collectedAt

def CounterReading.present (reading : CounterReading) (counter : Protocol × Identity) : Bool :=
  reading.samples.any fun sample =>
    sample.protocol == counter.1 && sample.identity == counter.2

/-- Counters of the read before a change that the read after it should have found and did not. -/
def goneCounters (before after : CounterReading) : List (Protocol × Identity) :=
  (before.samples.map fun sample => (sample.protocol, sample.identity)).filter fun counter =>
    after.sourcesRead.contains counter.1 && !after.present counter

def afterChangeReadAttempts : Nat := 6

/-- The read after a change is repeated while a source that answered before it does not
answer yet. -/
def asksAgain (before after : CounterReading) (attempts : Nat) : Bool :=
  !(before.sourcesRead.all after.sourcesRead.contains) && attempts < afterChangeReadAttempts

def forgetCounters (usage : List CredentialUsage) (gone : List (Protocol × Identity))
    (collectedAt : Instant) : List CredentialUsage :=
  updateWhere (fun usage => gone.any fun counter => sameCounter counter.1 counter.2 usage)
    (forgottenUsage collectedAt) usage

abbrev ReaderId := Nat

inductive Reader where
  /-- `run_usage_poll`: the servers not asked yet, the read it waits for, what it has. -/
  | polling (waiting : List Uuid) (asked : Option Read) (collected : List Taken)
  /-- `keep_counters_across` and `_after_change`, step by step. -/
  | readingBefore (asked : Read)
  | recordingBefore (before : Taken)
  | changing (before : Taken)
  | readingAfter (before : Taken) (attempts : Nat) (asked : Read)
  | recordingAfter (before : Taken) (attempts : Nat) (after : Taken)
  | forgetting (before after : Taken)

structure World where
  protocol : Protocol
  identity : Identity
  servers : List Uuid
  distinct : servers.Nodup
  counters : Uuid → Counter
  now : Instant
  readers : List (ReaderId × Reader)
  nextReader : ReaderId
  usage : List CredentialUsage

inductive Event where
  | traffic (serverId : Uuid) (bytes : Bytes)
  | restart (serverId : Uuid)
  | remove (serverId : Uuid)
  | appear (serverId : Uuid)
  | poll (servers : List Uuid)
  | change (serverId : Uuid) (now : Instant)
  | ask (reader : ReaderId) (now : Instant)
  | take (reader : ReaderId) (reached : Bool)
  | fail (reader : ReaderId)
  | record (reader : ReaderId) (written : Bool)
  | forget (reader : ReaderId) (written : Bool)
  | crash (reader : ReaderId)

variable (world : World)

def World.served : Bytes where
  rx := (world.servers.map fun serverId => (world.counters serverId).served.rx).sum
  tx := (world.servers.map fun serverId => (world.counters serverId).served.tx).sum

/-- The row of a counter in `credential_usage`; it is inserted empty. -/
def counterRow (usage : List CredentialUsage) (protocol : Protocol) (identity : Identity) :
    CredentialUsage :=
  (usage.find? (sameCounter protocol identity)).getD ⟨protocol, identity, 0, 0, 0, 0, none⟩

def World.row : CredentialUsage :=
  counterRow world.usage world.protocol world.identity

variable (id : ReaderId)

def World.reader : Option Reader :=
  (lookup Prod.fst id world.readers).map Prod.snd

def World.setCounter (serverId : Uuid) (counter : Counter) : World :=
  { world with
    counters := fun id => if id = serverId then counter else world.counters id }

def World.spawn (now : Instant) (reader : Reader) : World :=
  { world with
    now := now
    readers := world.readers ++ [(world.nextReader, reader)]
    nextReader := world.nextReader + 1 }

def World.proceed (next : Reader) : World :=
  { world with
    readers := world.readers.map fun entry => if entry.1 = id then (id, next) else entry }

def World.finish : World :=
  { world with readers := world.readers.filter fun entry => entry.1 != id }

def moveCounter (counter : Counter) (serverId : Uuid) : Event → Option Counter
  | .traffic target bytes =>
    if target = serverId then
      counter.running.map fun value => ⟨counter.ended, some (value.add bytes)⟩
    else none
  | .restart target =>
    if target = serverId then
      counter.running.map fun value => ⟨counter.ended.add value, some .zero⟩
    else none
  | .remove target =>
    if target = serverId then
      counter.running.map fun value => ⟨counter.ended.add value, none⟩
    else none
  | .appear target =>
    if target = serverId ∧ counter.running = none then some ⟨counter.ended, some .zero⟩
    else none
  | _ => none

def World.take (read : Read) (reached : Bool) : Taken where
  serverId := read.serverId
  collectedAt := read.askedAt
  found :=
    if reached then
      match (world.counters read.serverId).running with
      | some value => .listed value
      | none => .missing
    else .unread
  served := world.served

variable (protocol : Protocol) (identity : Identity)

def Reader.ask (now : Instant) :
    Reader → Option Reader
  | .polling (serverId :: waiting) none collected =>
    some (.polling waiting (some ⟨serverId, now⟩) collected)
  | .changing before => some (.readingAfter before 1 ⟨before.serverId, now⟩)
  | .recordingAfter before attempts after =>
    if asksAgain (before.reading protocol identity) (after.reading protocol identity)
        attempts then
      some (.readingAfter before (attempts + 1) ⟨before.serverId, now⟩)
    else none
  | _ => none

def Reader.asked : Reader → Option Read
  | .polling _ asked _ => asked
  | .readingBefore asked | .readingAfter _ _ asked => some asked
  | _ => none

def Reader.receive (taken : Taken) : Reader → Option Reader
  | .polling waiting (some _) collected => some (.polling waiting none (collected ++ [taken]))
  | .readingBefore _ => some (.recordingBefore taken)
  | .readingAfter before attempts _ => some (.recordingAfter before attempts taken)
  | _ => none

/-- A read that raises: a poll leaves the server out, a bracket goes no further. -/
def Reader.fail : Reader → Option (Option Reader)
  | .polling waiting (some _) collected => some (some (.polling waiting none collected))
  | .readingBefore _ | .readingAfter _ _ _ => some none
  | _ => none

def Reader.record :
    Reader → Option (List Taken × Option Reader)
  | .polling [] none collected => some (collected, none)
  | .recordingBefore before => some ([before], some (.changing before))
  | .recordingAfter before attempts after =>
    if asksAgain (before.reading protocol identity) (after.reading protocol identity)
        attempts then
      none
    else some ([after], some (.forgetting before after))
  | _ => none

def World.recorded (collected : List Taken) : List CredentialUsage :=
  (collected.flatMap fun taken =>
    (taken.reading world.protocol world.identity).samples).foldl applySample world.usage

def World.goOn : Option Reader → World
  | some next => world.proceed id next
  | none => world.finish id

/-- A reader's step; a write the database refuses is logged and left out. -/
def stepReader (reader : Reader) : Event → Option World
  | .ask _ now =>
    if world.now ≤ now then
      (reader.ask world.protocol world.identity now).map fun next =>
        { world.proceed id next with now := now }
    else none
  | .take _ reached =>
    reader.asked.bind fun read =>
      (reader.receive (world.take read reached)).map (world.proceed id)
  | .fail _ => reader.fail.map (world.goOn id)
  | .record _ written =>
    (reader.record world.protocol world.identity).map fun ready =>
      { world.goOn id ready.2 with
        usage := if written then world.recorded ready.1 else world.usage }
  | .forget _ written =>
    match reader with
    | .forgetting before after =>
      let gone := goneCounters (before.reading world.protocol world.identity)
        (after.reading world.protocol world.identity)
      some { world.finish id with
        usage := if written then forgetCounters world.usage gone after.collectedAt
          else world.usage }
    | _ => none
  | .crash _ => some (world.finish id)
  | _ => none

def Event.reader : Event → Option ReaderId
  | .ask reader _ | .take reader _ | .fail reader | .record reader _ | .forget reader _
  | .crash reader => some reader
  | _ => none

def Event.server : Event → Option Uuid
  | .traffic serverId _ | .restart serverId | .remove serverId | .appear serverId =>
    some serverId
  | _ => none

def step (event : Event) : Option World :=
  match event with
  | .poll servers =>
    if servers.all world.servers.contains then
      some (world.spawn world.now (.polling servers none []))
    else none
  | .change serverId now =>
    if world.now ≤ now ∧ serverId ∈ world.servers then
      some (world.spawn now (.readingBefore ⟨serverId, now⟩))
    else none
  | _ =>
    match event.server, event.reader with
    | some serverId, _ =>
      if serverId ∈ world.servers then
        (moveCounter (world.counters serverId) serverId event).map (world.setCounter serverId)
      else none
    | none, some id => (world.reader id).bind fun reader => stepReader world id reader event
    | none, none => none

def fresh (servers : List Uuid)
    (distinct : servers.Nodup) : World where
  protocol := protocol
  identity := identity
  servers := servers
  distinct := distinct
  counters := fun _ => ⟨.zero, none⟩
  now := 0
  readers := []
  nextReader := 0
  usage := []

end Nebula.Usage
