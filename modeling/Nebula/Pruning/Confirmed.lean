import Nebula.Fleet.Activation
import Nebula.Pruning.Lock

/-!
# What a successful answer means

A row becomes `active` because an agent answered that a provision was applied.
-/

namespace Nebula.Pruning

open Schema Runs ControlPlane Fleet List

def Provided (holding : Holding) (world : PruningWorld) (event : PruningEvent) : Prop :=
  ∃ fleetEvent, event = .fleet fleetEvent ∧ world.fleet.provides fleetEvent holding

/-- A driver applied the credential, and the agent has held it ever since. -/
def AppliedSince (holding : Holding) (events : List PruningEvent) (start : PruningWorld) : Prop :=
  Since PruningWorld.step (Provided holding) (fun world => world.fleet.holds holding = true)
    events start

def HeldWhenGiven (start : PruningWorld) (events : List PruningEvent) (reply : Reply)
    (holding : Holding) : Prop :=
  ∃ earlier event later world next, events = earlier ++ event :: later ∧
    runEvents PruningWorld.step earlier start = some world ∧ world.step event = some next ∧
    Gives world.fleet next.fleet reply ∧ AppliedSince holding (earlier ++ [event]) start

variable (world : PruningWorld)

def activatedBy (event : PruningEvent) (next : PruningWorld) : List Row :=
  match event with
  | .fleet fleetEvent => activatedRows world.fleet fleetEvent next.fleet
  | _ => []

def PruningWorld.answerBehind : PruningEvent → Option Evidence
  | .fleet fleetEvent => world.fleet.answerBehind fleetEvent
  | _ => none

/-- Confirmations of provisions are true when given, and every row written `active` has one behind
it. -/
def ConfirmedWhenActive (events : List PruningEvent) (start : PruningWorld) : Prop :=
  ∀ earlier event later world next, events = earlier ++ event :: later →
    runEvents PruningWorld.step earlier start = some world → world.step event = some next →
    (∀ reply holding, Gives world.fleet next.fleet reply → reply.Confirms holding →
      AppliedSince holding (earlier ++ [event]) start) ∧
    ∀ row ∈ activatedBy world event next, ∃ reply : Reply,
      reply.Confirms (rowHolding next.fleet.plane.tables row) ∧
      world.answerBehind event = some reply.evidence ∧
      HeldWhenGiven start earlier reply (rowHolding next.fleet.plane.tables row)

/-- No driver is disturbed, and no task goes on with a credential that its row has lost. -/
def worksUndisturbed : PruningEvent → Bool
  | .fleet (.plane event) => keepsCredential world.fleet.plane event
  | .fleet event => handlesAlone world.fleet event
  | _ => true

/-- No credential is taken away while a ledger still calls its provision applied. -/
def keepsPromised (event : PruningEvent) : Bool :=
  (world.step event).all fun next =>
    next.fleet.promised.all fun holding =>
      !world.fleet.holds holding || next.fleet.holds holding

section

variable {world next : PruningWorld} (event : PruningEvent)

theorem heldWhenGiven_next (start : PruningWorld) (events : List PruningEvent) (reply : Reply)
    (holding : Holding) (held : HeldWhenGiven start events reply holding) :
    HeldWhenGiven start (events ++ [event]) reply holding := by
  obtain ⟨earlier, first, later, before, after, split, run, taken, gives, since⟩ := held
  refine ⟨earlier, first, later ++ [event], before, after, ?_, run, taken, gives, since⟩
  rw [split, append_assoc, cons_append]

structure Sustains (fleet after : World) : Prop where
  plane : after.plane = fleet.plane
  underWay : after.underWay = fleet.underWay
  replies : after.replies = fleet.replies
  evidence : after.evidence = fleet.evidence
  ledger : ∀ serverId, (after.agents serverId).ledger = (fleet.agents serverId).ledger

variable {fleet after : World}

variable (sustains : Sustains fleet after)
include sustains

theorem Sustains.retries : after.retries = fleet.retries := by
  simp [World.retries, sustains.plane, sustains.underWay]

theorem Sustains.promised : after.promised = fleet.promised := by
  simp [World.promised, sustains.retries, AgentState.replays, sustains.ledger]

theorem Sustains.keysAgree (keys : KeysAgree fleet) : KeysAgree after := by
  refine ⟨?_, ?_, ?_, ?_⟩
  · rw [sustains.plane]
    exact keys.keyed
  · rw [sustains.retries, sustains.plane]
    exact keys.known
  · intro serverId
    rw [sustains.ledger, sustains.plane]
    exact keys.recorded serverId
  · rw [sustains.retries]
    exact keys.agree

omit sustains

theorem step_ofFleet {fleetEvent : WorldEvent}
    (taken : world.step (.fleet fleetEvent) = some next) :
    world.fleet.step fleetEvent = some next.fleet := by
  simp only [PruningWorld.step, PruningWorld.stepFleet] at taken
  split at taken
  · cases taken
  · obtain ⟨fleet, stepped, written⟩ := Option.map_eq_some_iff.mp taken
    subst written
    exact stepped

theorem step_sustains (taken : world.step event = some next) :
    (∃ fleetEvent, event = .fleet fleetEvent ∧ world.fleet.step fleetEvent = some next.fleet) ∨
      Sustains world.fleet next.fleet := by
  have still : next.fleet = world.fleet → Sustains world.fleet next.fleet := by
    intro same
    rw [same]
    exact ⟨rfl, rfl, rfl, rfl, fun _ => rfl⟩
  cases step_pruningChange taken with
  | ofFleet fleetEvent happened _ stepped _ _ _ => exact Or.inl ⟨fleetEvent, happened, stepped⟩
  | ofPass fleet _ | delivered call _ fleet _ _ _ => exact Or.inr (still fleet)
  | driven _ _ job files _ _ _ _ _ fleet _ _ _ =>
    right
    rw [fleet]
    refine ⟨rfl, rfl, rfl, rfl, ?_⟩
    intro serverId
    simp only [World.setAgent]
    split
    · rename_i own
      rw [own]
    · rfl

theorem sustains_undisturbed (taken : world.step event = some next) (locked : Locked world)
    (undisturbed : Undisturbed world.fleet)
    (alone : ∀ fleetEvent, event = .fleet fleetEvent →
      handlesAlone world.fleet fleetEvent = true) : Undisturbed next.fleet := by
  have still : next.fleet = world.fleet → Undisturbed next.fleet := by
    intro same
    rw [same]
    exact undisturbed
  cases step_pruningChange taken with
  | ofFleet fleetEvent happened _ stepped _ _ _ =>
    exact step_undisturbed stepped (alone fleetEvent happened) undisturbed
  | ofPass fleet _ | delivered call _ fleet _ _ _ => exact still fleet
  | driven _ _ job files _ _ member _ stepped fleet _ _ _ =>
    have elsewhere : ∀ serverId, serverId ≠ job.call.serverId →
        next.fleet.agents serverId = world.fleet.agents serverId := by
      intro serverId other
      rw [fleet]
      exact if_neg other
    have here : next.fleet.agents job.call.serverId =
        { world.fleet.agents job.call.serverId with files := files } := by
      rw [fleet]
      exact if_pos rfl
    have jobs : next.fleet.jobs = world.fleet.jobs := by rw [fleet]; rfl
    constructor
    · intro serverId
      refine kept_of_bears (undisturbed.peers serverId)
        (fun other _ _ => by rw [jobs]) (syncBears_of_interface ?_)
      by_cases own : serverId = job.call.serverId
      · rw [own, here]
      · rw [elsewhere serverId own]
    · intro serverId
      refine kept_of_bears (undisturbed.clients serverId) (fun other _ _ => by rw [jobs]) ?_
      by_cases own : serverId = job.call.serverId
      · subst own
        rcases pruneStep_writes stepped with untouched | holds
        · refine bears_of_files Serves ?_
          rw [here, untouched]
        · exact bears_of_unlocked Serves _ (locked.exclusive job member holds)
      · rw [elsewhere serverId own]
        exact bears_refl (lockRule Serves) world.fleet

end

structure Confirmed (start : PruningWorld) (earlier : List PruningEvent) (world : PruningWorld) :
    Prop where
  undisturbed : Undisturbed world.fleet
  locked : Locked world
  keys : KeysAgree world.fleet
  promised : ∀ holding ∈ world.fleet.promised, AppliedSince holding earlier start
  replies : ∀ reply ∈ world.fleet.replies, ∀ holding, reply.Confirms holding →
    HeldWhenGiven start earlier reply holding
  tasks : ∀ entry ∈ world.fleet.plane.tasks, ∀ settled, activation entry.2 = some settled →
    ∃ reply : Reply, reply.Confirms settled.2 ∧
      world.fleet.evidence entry.1 = some reply.evidence ∧
      HeldWhenGiven start earlier reply settled.2

section

variable {start world next : PruningWorld} {earlier : List PruningEvent} {event : PruningEvent}
variable (run : runEvents PruningWorld.step earlier start = some world)
variable (taken : world.step event = some next) (confirmed : Confirmed start earlier world)
include run taken confirmed

variable {holding : Holding}

theorem appliedSince_provided (provided : Provided holding world event) :
    AppliedSince holding (earlier ++ [event]) start := by
  refine since_now _ run provided taken ?_
  obtain ⟨fleetEvent, happened, provides⟩ := provided
  subst happened
  exact step_provides confirmed.undisturbed (step_ofFleet taken) provides

theorem appliedSince_still (promised : holding ∈ world.fleet.promised)
    (still : world.fleet.holds holding = true → next.fleet.holds holding = true) :
    AppliedSince holding (earlier ++ [event]) start := by
  have since := confirmed.promised holding promised
  exact since_next _ since run taken (still (since_holds PruningWorld.step _ since run))

theorem confirmation_held {reply : Reply} (gives : Gives world.fleet next.fleet reply)
    (confirms : reply.Confirms holding) :
    AppliedSince holding (earlier ++ [event]) start := by
  rcases step_sustains event taken with ⟨fleetEvent, happened, stepped⟩ | sustains
  · rcases gives_confirmation stepped gives confirms with provides | ⟨promised, agents⟩
    · exact appliedSince_provided run taken confirmed ⟨fleetEvent, happened, provides⟩
    refine appliedSince_still run taken confirmed promised ?_
    unfold World.holds
    rw [agents]
    exact id
  · have fewer : next.fleet.replies.Sublist world.fleet.replies := by rw [sustains.replies]
    exact absurd gives (not_gives world.fleet next.fleet fewer)

theorem promised_applied (keeps : keepsPromised world event = true)
    (promised : holding ∈ next.fleet.promised)
    (source : holding ∈ world.fleet.promised ∨ Provided holding world event) :
    AppliedSince holding (earlier ++ [event]) start := by
  rcases source with old | provided
  · refine appliedSince_still run taken confirmed old ?_
    intro held
    simp only [keepsPromised, taken, Option.all_some, all_eq_true] at keeps
    simpa [held] using keeps holding promised
  · exact appliedSince_provided run taken confirmed provided

theorem step_confirmed (undisturbs : worksUndisturbed world event = true)
    (keeps : keepsPromised world event = true) : Confirmed start (earlier ++ [event]) next := by
  have undisturbed : Undisturbed next.fleet := by
    refine sustains_undisturbed event taken confirmed.locked confirmed.undisturbed ?_
    intro fleetEvent happened
    subst happened
    cases fleetEvent <;> first | rfl | exact undisturbs
  have locked := step_locked taken confirmed.locked
  rcases step_sustains event taken with ⟨fleetEvent, happened, stepped⟩ | sustains
  · have credential : ∀ planeEvent, fleetEvent = .plane planeEvent →
        keepsCredential world.fleet.plane planeEvent = true := by
      intro planeEvent planned
      subst happened planned
      exact undisturbs
    have agree := step_keysAgree stepped confirmed.keys credential
    refine ⟨undisturbed, locked, agree, ?_, ?_, ?_⟩
    · intro holding promised
      refine promised_applied run taken confirmed keeps promised ?_
      rcases step_promised stepped confirmed.keys credential promised with old | provides
      · exact Or.inl old
      · exact Or.inr ⟨fleetEvent, happened, provides⟩
    · intro reply member holding confirms
      rcases step_replies world.fleet next.fleet stepped member with old | ⟨_, _, _, _, gives⟩
      · exact heldWhenGiven_next event start earlier reply holding
          (confirmed.replies reply old holding confirms)
      · exact ⟨earlier, event, [], world, next, rfl, run, taken, gives,
          confirmation_held run taken confirmed gives
            confirms⟩
    · intro entry member settled activates
      have later := heldWhenGiven_next event start earlier
      rcases step_activation stepped member
          activates with ⟨old, evidence⟩ | ⟨reply, replied, confirms, evidence⟩
      · obtain ⟨reply, confirms, shown, held⟩ := confirmed.tasks entry old settled activates
        exact ⟨reply, confirms, evidence.trans shown, later reply _ held⟩
      · exact ⟨reply, confirms, evidence,
          later reply _ (confirmed.replies reply replied _ confirms)⟩
  · refine ⟨undisturbed, locked, sustains.keysAgree confirmed.keys, ?_, ?_, ?_⟩
    · intro holding member
      refine promised_applied run taken confirmed keeps member (Or.inl ?_)
      rw [← sustains.promised]
      exact member
    · intro reply member holding confirms
      rw [sustains.replies] at member
      exact heldWhenGiven_next event start earlier reply holding
        (confirmed.replies reply member holding confirms)
    · intro entry member settled activates
      rw [sustains.plane] at member
      obtain ⟨reply, confirms, shown, held⟩ := confirmed.tasks entry member settled activates
      exact ⟨reply, confirms, by rw [sustains.evidence]; exact shown,
        heldWhenGiven_next event start earlier reply _ held⟩

end

structure Quiet (fleet : World) : Prop where
  tasks : fleet.plane.tasks = []
  net : fleet.net = []
  jobs : fleet.jobs = []
  replies : fleet.replies = []
  operations : ∀ operation ∈ fleet.plane.tables.operations, operation.state.inflight = false
  keys : ∀ operation ∈ fleet.plane.tables.operations,
    operation.idempotencyKey < fleet.plane.nextUuid
  ledgers : ∀ serverId, ∀ entry ∈ (fleet.agents serverId).ledger.entries,
    entry.idempotencyKey < fleet.plane.nextUuid
  profiles : (fleet.plane.tables.profiles.map Profile.id).Nodup

theorem quiet_retries {fleet : World} (quiet : Quiet fleet) : fleet.retries = [] := by
  have idle : fleet.plane.tables.operations.filter (fun operation => operation.state.inflight) =
      [] := by
    refine filter_eq_nil_iff.mpr ?_
    intro operation member
    simp [quiet.operations operation member]
  simp [World.retries, World.underWay, openRetries, quiet.net, quiet.jobs, idle]

theorem confirmed_of_quiet {fleet : World} (quiet : Quiet fleet) :
    Confirmed (beforePrunes fleet) [] (beforePrunes fleet) := by
  have free : ∀ rule : Discipline, (∀ agent, rule.rests agent) → ∀ serverId,
      Kept rule fleet serverId := by
    intro rule rests serverId
    refine .free ?_ (rests _)
    intro job member
    rw [quiet.jobs] at member
    cases member
  have noRetry : ∀ retry, retry ∉ fleet.retries := by
    intro retry
    rw [quiet_retries quiet]
    exact not_mem_nil
  have noTask : ∀ entry, entry ∉ fleet.plane.tasks := by
    intro entry
    rw [quiet.tasks]
    exact not_mem_nil
  refine ⟨⟨free syncRule fun _ => trivial, free (lockRule Serves) fun _ => trivial⟩,
    beforePrunes_locked fleet, ⟨?_, ?_, ?_, ?_⟩, ?_, ?_, ?_⟩
  · refine ⟨quiet.profiles, ?_, ?_, quiet.keys, ?_⟩
    · intro entry member
      exact absurd member (noTask entry)
    · intro entry member
      exact absurd member (noTask entry)
    · intro operation member inflight
      rw [quiet.operations operation member] at inflight
      cases inflight
  · intro retry stands
    exact absurd stands (noRetry retry)
  · intro serverId entry member _
    exact quiet.ledgers serverId entry member
  · intro first stands
    exact absurd stands (noRetry first)
  · intro holding member
    obtain ⟨retry, stands, _⟩ := (mem_promised fleet).mp member
    exact absurd stands (noRetry retry)
  · intro reply member
    have none : reply ∈ fleet.replies := member
    rw [quiet.replies] at none
    cases none
  · intro entry member
    exact absurd member (noTask entry)

/-- Undisturbed, and with no promised credential taken away, a successful answer means applied. -/
theorem active_means_applied (fleet : World) (quiet : Quiet fleet) (events : List PruningEvent)
    (meets : RunMeets PruningWorld.step (fun world event =>
      worksUndisturbed world event = true ∧ keepsPromised world event = true) events
      (beforePrunes fleet)) :
    ConfirmedWhenActive events (beforePrunes fleet) := by
  intro earlier event later world next split run taken
  subst split
  obtain ⟨meetsEarlier, ⟨undisturbs, keeps⟩, _⟩ := runMeets_append _ _ world run meets
  have confirmed : Confirmed (beforePrunes fleet) earlier world := by
    refine runEvents_history PruningWorld.step ?_ (confirmed_of_quiet quiet) meetsEarlier world run
    intro before state step after runBefore holds guard stepped
    exact step_confirmed runBefore stepped holds guard.1 guard.2
  constructor
  · intro reply holding gives confirms
    exact confirmation_held run taken confirmed gives confirms
  intro row activated
  cases event with
  | fleet fleetEvent =>
    have planned : ∀ planeEvent, fleetEvent = .plane planeEvent →
        keepsCredential world.fleet.plane planeEvent = true := by
      intro planeEvent happened
      subst happened
      exact undisturbs
    obtain ⟨entry, member, behind, id, activates⟩ := activatedRows_spec (step_ofFleet taken)
      planned activated
    obtain ⟨reply, confirms, shown, held⟩ := confirmed.tasks entry member _ activates
    exact ⟨reply, confirms, behind.trans shown, held⟩
  | _ => cases activated

def answeredByLedger : List PruningEvent :=
  .map .fleet (clientProvisioned.take 3 ++ [.plane (.passBegin ⟨.xrayClient, true, none⟩ 11),
    .plane (.passRead 1 10), .plane (.rowStart 2), .deliver 2 true, .receive 2] ++
    clientProvisioned.drop 3 ++ [.loseReply 0, .giveUp 0 false, .plane (.repairBegin 2 12),
    .deliver 2 true, .receive 2, .plane (.repairFinalize 2)])

theorem quiet_smallFleet : Quiet smallFleet :=
  ⟨rfl, rfl, rfl, rfl, nofun, nofun, fun _ _ member => absurd member not_mem_nil, by decide⟩

theorem active_means_applied_answeredByLedger :
    RunMeets PruningWorld.step (fun world event =>
        worksUndisturbed world event = true ∧ keepsPromised world event = true) answeredByLedger
        (beforePrunes smallFleet) ∧
      ((runEvents PruningWorld.step answeredByLedger (beforePrunes smallFleet)).any fun final =>
        final.fleet.plane.tables.rows.any fun row =>
          row.state == .active && final.fleet.holds (rowHolding final.fleet.plane.tables row)) =
        true ∧
      ConfirmedWhenActive answeredByLedger (beforePrunes smallFleet) :=
  ⟨by decide +kernel, by decide +kernel,
    active_means_applied smallFleet quiet_smallFleet answeredByLedger (by decide +kernel)⟩

def heldBehind (world : PruningWorld) (event : PruningEvent) (next : PruningWorld) : Prop :=
  ∀ row ∈ activatedBy world event next, ∃ shown ∈ world.answerBehind event,
    shown.agent.holds row.identity (agentProfileCode next.fleet.plane.tables row) = true
  deriving Decidable

theorem heldBehind_of_confirmed {events : List PruningEvent} {start : PruningWorld}
    (confirmed : ConfirmedWhenActive events start) :
    EachStep PruningWorld.step heldBehind events start := by
  intro earlier event later world next split run taken row activated
  obtain ⟨reply, ⟨request, _, _, _, same, _⟩, behind, before, first, _, prior, after, _, runPrior,
    stepped, gives, since⟩ := (confirmed earlier event later world next split run taken).2 row
    activated
  refine ⟨reply.evidence, behind, ?_⟩
  have reached : runEvents PruningWorld.step (before ++ [first]) start = some after := by
    simp [runEvents_append, runPrior, stepped]
  have held := since_holds PruningWorld.step _ since reached
  have server : row.serverId = reply.envelope.serverId := (congrArg Holding.serverId same).symm
  rw [← gives.agent, ← server]
  exact held

/-- A prune reads the rows; a client is applied in a call given up; the prune removes it; the repair
retries under the old key. -/
def prunedBeforeRetry : List PruningEvent :=
  [.begin, .read 0, .decrypt 0] ++ clientProvisioned.map .fleet ++
    [.fleet (.giveUp 0 false), .deliver 0 3 true, .drive 0 3 .lockAcquired true,
      .drive 0 3 .validated true, .drive 0 3 .applied true, .drive 0 3 .kicked true] ++
    .map .fleet [.plane (.passBegin ⟨.xrayClient, true, none⟩ 11), .plane (.passRead 1 10),
      .plane (.rowStart 2), .deliver 2 true, .receive 2, .plane (.repairBegin 2 12),
      .deliver 2 true, .receive 2]

theorem active_unheld_prunedBeforeRetry :
    ¬ ConfirmedWhenActive (prunedBeforeRetry ++ [.fleet (.plane (.repairFinalize 2))])
      (beforePrunes smallFleet) := by
  intro confirmed
  exact not_eachStep PruningWorld.step
    (by decide +kernel)
    (heldBehind_of_confirmed confirmed)

end Nebula.Pruning
