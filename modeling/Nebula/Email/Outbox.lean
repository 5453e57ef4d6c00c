import Nebula.JsonObject
import Nebula.Runs
import Nebula.Work
import Nebula.Schema.Vocabulary

/-!
# The email outbox

The API commits a delivery row and then stages its payload in Redis; workers claim rows, read the
payload, send, and put down what came of it (`nebula_worker/poller.py`, `outbox.py`). Each
transaction and each call is a step. A worker's clock is what it reads when a poll begins; payloads
expire by the clock of Redis.

What is sent, most audit rows and the columns the worker never reads are left out. A statement that
breaks a check of the table fails as a whole, and the call that made it raises.
-/

namespace Nebula.Email

open Schema Store Json Work

inductive DeliveryState where
  | pending
  | sending
  | sent
  | failed
  | cancelled
  deriving DecidableEq

/-- `EMAIL_TEMPLATE_CODES`, and a code the worker does not know yet. -/
inductive TemplateCode where
  | accountRequestReview
  | userActivation
  | passwordReset
  | requestRejected
  | unknown
  deriving DecidableEq

inductive ResultCode where
  | delivered
  | leaseExpired
  | payloadUnavailable
  | unknownTemplate
  | sendFailed
  deriving DecidableEq

structure EmailDelivery where
  id : Uuid
  templateCode : TemplateCode
  recipientAddress : Text
  state : DeliveryState
  attemptCount : Nat
  availableAt : Instant
  leasedUntil : Option Instant
  sentAt : Option Instant
  resultCode : Option ResultCode
  deriving DecidableEq

/-- `attempt_count_range`, `sent_after_available` and `sent_state_timestamp`. -/
def EmailDelivery.Checked (row : EmailDelivery) : Prop :=
  row.attemptCount ≤ 100 ∧ (∀ sentAt ∈ row.sentAt, row.availableAt ≤ sentAt) ∧
    (row.state = .sent → row.sentAt.isSome = true)
  deriving Decidable

structure Settings where
  leaseSeconds : Nat
  batchSize : Nat
  maxAttempts : Nat
  maxAttempts_pos : 1 ≤ maxAttempts

def Settings.defaults : Settings :=
  ⟨60, 10, 8, by decide⟩

structure ClaimedDelivery where
  id : Uuid
  templateCode : TemplateCode
  recipientAddress : Text
  attemptCount : Nat

def EmailDelivery.asClaimed (row : EmailDelivery) : ClaimedDelivery :=
  ⟨row.id, row.templateCode, row.recipientAddress, row.attemptCount⟩

/-- A statement changes the rows it selects, or none where one would break a check. -/
def updateRows (selected : EmailDelivery → Bool) (write : EmailDelivery → EmailDelivery)
    (rows : List EmailDelivery) : Option (List EmailDelivery) :=
  if ∀ row ∈ rows, selected row = true → (write row).Checked then
    some (updateWhere selected write rows)
  else none

section

variable (settings : Settings) (now : Instant)

variable (row : EmailDelivery)

def leaseExpired : Bool :=
  decide (row.state = .sending) && row.leasedUntil.any fun leasedUntil => decide (leasedUntil < now)

def EmailDelivery.reclaimed : EmailDelivery :=
  { row with
    state := if settings.maxAttempts ≤ row.attemptCount + 1 then .failed else .pending
    attemptCount := row.attemptCount + 1
    resultCode := some .leaseExpired
    availableAt := now
    leasedUntil := none }

def claimable : Bool :=
  decide (row.state = .pending) && decide (row.availableAt ≤ now)

def EmailDelivery.claimed : EmailDelivery :=
  { row with state := .sending, leasedUntil := some (now + settings.leaseSeconds) }

/-- `_CLAIM_SQL` takes the oldest of the rows that nobody has locked, in some order. -/
def Claims (rows : List EmailDelivery) (locked chosen : List Uuid) : Prop :=
  chosen.Nodup ∧ chosen.length ≤ settings.batchSize ∧
    (∀ id ∈ chosen, ∃ row ∈ rows, row.id = id ∧ claimable now row = true) ∧
    ∀ row ∈ rows, claimable now row = true → row.id ∉ chosen → row.id ∉ locked →
      chosen.length = settings.batchSize ∧
        ∀ other ∈ rows, other.id ∈ chosen → other.availableAt ≤ row.availableAt
  deriving Decidable

def ResultCode.unretryable (result : ResultCode) : Bool :=
  decide (result = .payloadUnavailable ∨ result = .unknownTemplate)

/-- `_MARK_SENT_SQL`, or what `_finalize` chooses by the attempts there were at the claim. -/
def EmailDelivery.finalized (claimed : ClaimedDelivery) (result : ResultCode)
    (row : EmailDelivery) : EmailDelivery :=
  if result = .delivered then
    { row with
      state := .sent
      sentAt := some now
      attemptCount := row.attemptCount + 1
      resultCode := some .delivered }
  else if settings.maxAttempts ≤ claimed.attemptCount + 1 ∨ result.unretryable = true then
    { row with
      state := .failed
      attemptCount := row.attemptCount + 1
      resultCode := some result }
  else
    { row with
      state := .pending
      availableAt := now + min 3600 (30 * 2 ^ claimed.attemptCount)
      attemptCount := row.attemptCount + 1
      resultCode := some result }

end

abbrev Payload := List (Text × Text)

def dumpPayload (payload : Payload) : Text :=
  (Value.object (dict (payload.map fun entry =>
    (asUnits entry.1, Value.text (asUnits entry.2))))).dumps

def isTextValue : Value → Bool
  | .text _ => true
  | _ => false

def readEmailPayload (decoder : Decoder) (raw : Option Text) : Option Members :=
  match raw.bind (loads decoder) with
  | some (.object members) =>
    if members.all fun member => isTextValue member.2 then some members else none
  | _ => none

structure Staged where
  deliveryId : Uuid
  raw : Text
  expiresAt : Instant

def redisGet (payloads : List Staged) (now : Instant) (deliveryId : Uuid) : Option Text :=
  (payloads.find? fun staged =>
    decide (staged.deliveryId = deliveryId ∧ now < staged.expiresAt)).map Staged.raw

def redisSet (payloads : List Staged) (now : Instant) (staged : Staged) : List Staged :=
  if (redisGet payloads now staged.deliveryId).isSome then payloads else payloads ++ [staged]

inductive Stage where
  | reading
  | sending
  | finalizing (result : ResultCode)

inductive Poll where
  | begun (now : Instant)
  | reclaimed (now : Instant)
  | delivering (now : Instant) (current : ClaimedDelivery) (stage : Stage)
    (rest : List ClaimedDelivery)

def Poll.claims : Poll → List ClaimedDelivery
  | .begun _ => []
  | .reclaimed _ => []
  | .delivering _ current _ rest => current :: rest

def Poll.next (now : Instant) : List ClaimedDelivery → Option Poll
  | [] => none
  | current :: rest => some (.delivering now current .reading rest)

structure Staging where
  deliveryId : Uuid
  payload : Payload
  ttlSeconds : Nat

structure State where
  now : Instant
  deliveries : List EmailDelivery
  /-- Every id there was: `uuid4` gives none twice. -/
  known : List Uuid
  payloads : List Staged
  stagings : Pool Staging
  polls : Pool Poll
  /-- The audit rows with the reason `payload_unavailable`: of which delivery, and when. -/
  unavailable : List (Uuid × Instant)

def State.initial (now : Instant) : State :=
  { now := now, deliveries := [], known := [], payloads := [], stagings := .empty, polls := .empty,
    unavailable := [] }

inductive SendOutcome where
  | accepted
  | sendError
  | raised

inductive Event where
  | tick (later : Instant)
  | enqueue (id : Uuid) (templateCode : TemplateCode) (recipientAddress : Text)
    (availableAt : Instant) (payload : Payload) (ttlSeconds : Nat)
  | stage (number : Nat) (stored : Bool)
  | abandonStaging (number : Nat)
  | delete (ids : List Uuid)
  | beginPoll (clock : Instant)
  | reclaim (number : Nat)
  | claim (number : Nat) (locked chosen : List Uuid)
  | read (number : Nat) (answers : Bool)
  | send (number : Nat) (outcome : SendOutcome)
  | finalize (number : Nat)
  | raise (number : Nat)
  | die (number : Nat)

def afterRead (claimed : ClaimedDelivery) : Option Members → Stage
  | none => .finalizing .payloadUnavailable
  | some _ => if claimed.templateCode = .unknown then .finalizing .unknownTemplate else .sending

section

variable (decoder : Decoder) (settings : Settings)

def State.resumePoll (state : State) (number : Nat) (poll : Option Poll) : State :=
  { state with polls := state.polls.resume number poll }

def step (state : State) : Event → Option State
  | .tick later => if state.now ≤ later then some { state with now := later } else none
  | .enqueue id templateCode recipientAddress availableAt payload ttlSeconds =>
    if id ∈ state.known then none
    else
      some { state with
        deliveries := state.deliveries ++
          [⟨id, templateCode, recipientAddress, .pending, 0, availableAt, none, none, none⟩]
        known := state.known ++ [id]
        stagings := state.stagings.begin ⟨id, payload, ttlSeconds⟩ }
  | .stage number stored =>
    (state.stagings.find number).map fun staging =>
      -- A call that fails leaves nothing; `_stage_delivery` only logs it.
      { state with
        payloads :=
          if stored then
            redisSet state.payloads state.now ⟨staging.deliveryId, dumpPayload staging.payload,
              state.now + staging.ttlSeconds⟩
          else state.payloads
        stagings := state.stagings.finish number }
  | .abandonStaging number =>
    (state.stagings.find number).map fun _ =>
      { state with stagings := state.stagings.finish number }
  | .delete ids =>
    some { state with deliveries := state.deliveries.filter fun row => decide (row.id ∉ ids) }
  | .beginPoll clock => some { state with polls := state.polls.begin (.begun clock) }
  | .reclaim number =>
    match state.polls.find number with
    | some (.begun now) =>
      match updateRows (leaseExpired now) (EmailDelivery.reclaimed settings now)
          state.deliveries with
      | some deliveries =>
        some { state.resumePoll number (some (.reclaimed now)) with deliveries := deliveries }
      | none => some (state.resumePoll number none)
    | _ => none
  | .claim number locked chosen =>
    match state.polls.find number with
    | some (.reclaimed now) =>
      if Claims settings now state.deliveries locked chosen then
        let claimed := chosen.filterMap fun id => lookup EmailDelivery.id id state.deliveries
        some { state.resumePoll number (Poll.next now (claimed.map EmailDelivery.asClaimed)) with
          deliveries := updateWhere (fun row => decide (row.id ∈ chosen))
            (EmailDelivery.claimed settings now) state.deliveries }
      else none
    | _ => none
  | .read number answers =>
    match state.polls.find number with
    | some (.delivering now current .reading rest) =>
      let raw := if answers then redisGet state.payloads state.now current.id else none
      some (state.resumePoll number
        (some (.delivering now current (afterRead current (readEmailPayload decoder raw)) rest)))
    | _ => none
  | .send number outcome =>
    match state.polls.find number with
    | some (.delivering now current .sending rest) =>
      some (state.resumePoll number
        (match outcome with
        | .accepted => some (.delivering now current (.finalizing .delivered) rest)
        | .sendError => some (.delivering now current (.finalizing .sendFailed) rest)
        | .raised => Poll.next now rest))
    | _ => none
  | .finalize number =>
    match state.polls.find number with
    | some (.delivering now current (.finalizing result) rest) =>
      match updateRows (fun row => decide (row.id = current.id))
          (EmailDelivery.finalized settings now current result) state.deliveries with
      | some deliveries =>
        some { state.resumePoll number (Poll.next now rest) with
          deliveries := deliveries
          unavailable :=
            if result = .payloadUnavailable then
              state.unavailable ++ [(current.id, state.now)]
            else state.unavailable }
      | none => some (state.resumePoll number (Poll.next now rest))
    | _ => none
  | .raise number =>
    -- The database or Redis fails: the delivery keeps its lease, a poll without one ends.
    match state.polls.find number with
    | some (.delivering now _ _ rest) => some (state.resumePoll number (Poll.next now rest))
    | some _ => some (state.resumePoll number none)
    | none => none
  | .die number =>
    (state.polls.find number).map fun _ => state.resumePoll number none

end

end Nebula.Email
