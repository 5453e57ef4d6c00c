import Nebula.Agent.Prune
import Nebula.Fleet.Steps
import Nebula.Pruning.Request

/-!
# Prunes beside everything else

`run_xray_orphan_prune` takes the running servers one by one: it reads the live rows, decrypts each
credential in a transaction of its own, then sends the set, and the agent applies it when it gets
the lock. Nothing holds the rows still meanwhile. The rest of the fleet goes on as before, except
that a prune may hold the agent's lock.
-/

namespace Nebula.Pruning

open Schema Store ControlPlane Agent Fleet List Option

structure OrphanPruneSummary where
  servers : Nat
  removed : Nat
  kept : Nat
  skipped : Nat
  errored : Nat

inductive PassPhase where
  | choosing
  | decrypting (serverId : Uuid) (rows : List (Row × ProfileCode))
    (expected : List (Uuid × ProfileCode))
  | waiting (serverId : Uuid)

structure PrunePass where
  servers : List Uuid
  phase : PassPhase
  summary : OrphanPruneSummary

structure PruneCall where
  pass : Nat
  serverId : Uuid
  expected : List (Uuid × ProfileCode)
  deriving DecidableEq

/-- The driver looks only at the UUIDs, not at the profiles. -/
def PruneCall.keep (call : PruneCall) : List Uuid :=
  call.expected.map Prod.fst

structure PruneJob where
  call : PruneCall
  phase : PrunePhase
  deriving DecidableEq

structure PruneReply where
  call : PruneCall
  answer : PruneAnswer
  deriving DecidableEq

structure PruningWorld where
  fleet : World
  passes : List (Nat × PrunePass)
  nextPass : Nat
  calls : List PruneCall
  jobs : List PruneJob
  replies : List PruneReply

inductive PruningEvent where
  | fleet (event : WorldEvent)
  | begin
  | read (pass : Nat)
  | decrypt (pass : Nat)
  | abandon (pass : Nat)
  | stop (pass : Nat)
  | lose (pass : Nat) (serverId : Uuid)
  | deliver (pass : Nat) (serverId : Uuid) (admitted : Bool)
  | drive (pass : Nat) (serverId : Uuid) (event : XrayEvent) (readable : Bool)
  | receive (pass : Nat) (serverId : Uuid)
  | loseReply (pass : Nat) (serverId : Uuid)

def PruneCall.named (pass : Nat) (serverId : Uuid) (call : PruneCall) : Bool :=
  call.pass == pass && call.serverId == serverId

def runningServers (tables : Tables) : List Uuid :=
  (tables.servers.filter fun server => server.state.running).map Server.id

section

variable (world : PruningWorld)

def PruningWorld.pass (id : Nat) : Option PrunePass :=
  (lookup Prod.fst id world.passes).map Prod.snd

def PruningWorld.setPass (id : Nat) (pass : PrunePass) : PruningWorld :=
  { world with
    passes := updateWhere (fun entry => entry.1 == id) (fun _ => (id, pass)) world.passes }

def PruningWorld.begin : PruningWorld :=
  { world with
    passes := world.passes ++
      [(world.nextPass, ⟨runningServers world.fleet.plane.tables, .choosing, ⟨0, 0, 0, 0, 0⟩⟩)]
    nextPass := world.nextPass + 1 }

/-- `_prune_one_server` begins: its rows are read in one query. -/
def PruningWorld.read (id : Nat) : Option PruningWorld :=
  match world.pass id with
  | some ⟨serverId :: rest, .choosing, summary⟩ =>
    some (world.setPass id
      ⟨rest, .decrypting serverId (pruneRows world.fleet.plane.tables serverId) [],
        { summary with servers := summary.servers + 1 }⟩)
  | _ => none

/-- One more row, or the call after the last. An unreadable credential skips the server. -/
def PruningWorld.decrypt (id : Nat) : Option PruningWorld :=
  match world.pass id with
  | some ⟨servers, .decrypting serverId ((row, code) :: rest) expected, summary⟩ =>
    match decryptClientUuid world.fleet.plane.tables row with
    | some clientUuid =>
      some (world.setPass id
        ⟨servers, .decrypting serverId rest (expected ++ [(clientUuid, code)]), summary⟩)
    | none =>
      some (world.setPass id
        ⟨servers, .choosing, { summary with skipped := summary.skipped + 1 }⟩)
  | some ⟨servers, .decrypting serverId [] expected, summary⟩ =>
    some { world.setPass id ⟨servers, .waiting serverId, summary⟩ with
      calls := world.calls ++ [⟨id, serverId, expected⟩] }
  | _ => none

/-- An exception, or an answer that did not come: the pass goes on to the next server. -/
def PruningWorld.abandon (id : Nat) : Option PruningWorld :=
  match world.pass id with
  | some ⟨_, .choosing, _⟩ | none => none
  | some ⟨servers, _, summary⟩ =>
    some (world.setPass id
      ⟨servers, .choosing, { summary with errored := summary.errored + 1 }⟩)

def OrphanPruneSummary.count (summary : OrphanPruneSummary) : PruneAnswer →
    OrphanPruneSummary
  | .pruned removed kept =>
    { summary with removed := summary.removed + removed, kept := summary.kept + kept }
  | .failed _ | .raised => { summary with errored := summary.errored + 1 }

def PruningWorld.receive (reply : PruneReply) : Option PruningWorld :=
  match world.pass reply.call.pass with
  | some ⟨servers, .waiting serverId, summary⟩ =>
    if serverId = reply.call.serverId then
      some { world.setPass reply.call.pass
          ⟨servers, .choosing, summary.count reply.answer⟩ with
        replies := world.replies.erase reply }
    else none
  | _ => none

end

def PruneJob.locks (job : PruneJob) (serverId : Uuid) : Bool :=
  job.call.serverId == serverId && job.phase.holdsLock

def PruningWorld.pruneLocked (world : PruningWorld) (serverId : Uuid) : Bool :=
  world.jobs.any fun job => job.locks serverId

def takenLock (fleet : World) : WorldEvent → Option Uuid
  | .drive task (.xray .lockAcquired) =>
    (fleet.jobs.find? fun job => job.envelope.task == task).map fun job =>
      job.envelope.serverId
  | .resync serverId => some serverId
  | _ => none

def PruneJob.outlives (job : PruneJob) : WorldEvent → Bool
  | .restart serverId _ _ => job.call.serverId != serverId
  | _ => true

section

variable (world : PruningWorld)

def PruningWorld.stepFleet (event : WorldEvent) : Option PruningWorld :=
  if (takenLock world.fleet event).any world.pruneLocked then none
  else (world.fleet.step event).map fun fleet =>
    { world with
      fleet := fleet
      jobs := world.jobs.filter fun job => job.outlives event }

/-- The route's size check admits the body or refuses it. -/
def PruningWorld.deliver (call : PruneCall) (admitted : Bool) : PruningWorld :=
  if admitted then
    { world with calls := world.calls.erase call, jobs := world.jobs ++ [⟨call, .locking⟩] }
  else
    { world with calls := world.calls.erase call, replies := world.replies ++ [⟨call, .raised⟩] }

def PruningWorld.setFiles (serverId : Uuid) (files : XrayFiles) : PruningWorld :=
  { world with
    fleet := world.fleet.setAgent serverId
      { world.fleet.agents serverId with files := files } }

def PruningWorld.drive (job : PruneJob) (event : XrayEvent) (readable : Bool) :
    Option PruningWorld :=
  let serverId := job.call.serverId
  if event = .lockAcquired ∧
      (world.fleet.lockHeld serverId = true ∨ world.pruneLocked serverId = true) then none
  else match pruneStep job.call.keep (world.fleet.agents serverId).files readable job.phase
      event with
    | none => none
    | some (files, .goesOn phase) =>
      some { world.setFiles serverId files with
        jobs := world.jobs.map fun other => if other = job then ⟨job.call, phase⟩ else other }
    | some (files, .answers answer) =>
      some { world.setFiles serverId files with
        jobs := world.jobs.filter fun other => other != job
        replies := world.replies ++ [⟨job.call, answer⟩] }

def PruningWorld.step : PruningEvent → Option PruningWorld
  | .fleet event => world.stepFleet event
  | .begin => some world.begin
  | .read pass => world.read pass
  | .decrypt pass => world.decrypt pass
  | .abandon pass => world.abandon pass
  | .stop pass => some { world with passes := world.passes.filter fun entry => entry.1 != pass }
  | .lose pass serverId =>
    (world.calls.find? (PruneCall.named pass serverId)).map fun call =>
      { world with calls := world.calls.erase call }
  | .deliver pass serverId admitted =>
    (world.calls.find? (PruneCall.named pass serverId)).map fun call =>
      world.deliver call admitted
  | .drive pass serverId event readable =>
    (world.jobs.find? fun job => PruneCall.named pass serverId job.call).bind fun job =>
      world.drive job event readable
  | .receive pass serverId =>
    (world.replies.find? fun reply => PruneCall.named pass serverId reply.call).bind world.receive
  | .loseReply pass serverId =>
    (world.replies.find? fun reply => PruneCall.named pass serverId reply.call).map fun reply =>
      { world with replies := world.replies.erase reply }

end

inductive PruningChange (world : PruningWorld) (event : PruningEvent) (next : PruningWorld) :
    Prop
  | ofFleet (fleetEvent : WorldEvent) (happened : event = .fleet fleetEvent)
    (unblocked : ∀ serverId, takenLock world.fleet fleetEvent = some serverId →
      world.pruneLocked serverId = false)
    (taken : world.fleet.step fleetEvent = some next.fleet)
    (passes : next.passes = world.passes) (calls : next.calls = world.calls)
    (jobs : next.jobs = world.jobs.filter fun job => job.outlives fleetEvent)
  | ofPass (fleet : next.fleet = world.fleet) (jobs : next.jobs = world.jobs)
  | delivered (call : PruneCall) (member : call ∈ world.calls) (fleet : next.fleet = world.fleet)
    (passes : next.passes = world.passes) (calls : ∀ other ∈ next.calls, other ∈ world.calls)
    (jobs : ∀ job ∈ next.jobs, job ∈ world.jobs ∨ job = ⟨call, .locking⟩)
  | driven (xrayEvent : XrayEvent) (readable : Bool) (job : PruneJob)
    (files : XrayFiles) (outcome : PruneOutcome)
    (happened : event = .drive job.call.pass job.call.serverId xrayEvent readable)
    (member : job ∈ world.jobs)
    (free : xrayEvent = .lockAcquired → world.fleet.lockHeld job.call.serverId = false ∧
      world.pruneLocked job.call.serverId = false)
    (stepped : PruneStep job.call.keep (world.fleet.agents job.call.serverId).files readable
      job.phase xrayEvent files outcome)
    (fleet : next.fleet = world.fleet.setAgent job.call.serverId
      { world.fleet.agents job.call.serverId with files := files })
    (passes : next.passes = world.passes) (calls : next.calls = world.calls)
    (jobs : ∀ other ∈ next.jobs, (other ∈ world.jobs ∧ other ≠ job) ∨
      ∃ phase, outcome = .goesOn phase ∧ other = ⟨job.call, phase⟩)

section

variable {world next : PruningWorld}

theorem drive_pruningChange {job : PruneJob} {event : XrayEvent} {readable : Bool}
    (member : job ∈ world.jobs) (driven : world.drive job event readable = some next) :
    PruningChange world (.drive job.call.pass job.call.serverId event readable) next := by
  obtain ⟨unblocked, driven⟩ := ite_none_left_eq_some.mp driven
  have free : event = .lockAcquired → world.fleet.lockHeld job.call.serverId = false ∧
      world.pruneLocked job.call.serverId = false := by
    intro acquires
    simpa [acquires] using unblocked
  split at driven
  · cases driven
  · rename_i files phase stepped
    cases driven
    refine .driven event readable job files _ rfl member free
      (pruneStep_of_step stepped) rfl rfl rfl ?_
    intro other present
    obtain ⟨old, oldMember, same⟩ := mem_map.mp present
    split at same
    · exact Or.inr ⟨phase, rfl, same.symm⟩
    · rename_i different
      subst same
      exact Or.inl ⟨oldMember, different⟩
  · rename_i files answer stepped
    cases driven
    refine .driven event readable job files _ rfl member free
      (pruneStep_of_step stepped) rfl rfl rfl ?_
    intro other present
    obtain ⟨oldMember, different⟩ := mem_filter.mp present
    exact Or.inl ⟨oldMember, by simpa using different⟩

theorem step_pruningChange {event : PruningEvent} (taken : world.step event = some next) :
    PruningChange world event next := by
  cases event with
  | fleet fleetEvent =>
    obtain ⟨unblocked, taken⟩ := ite_none_left_eq_some.mp taken
    obtain ⟨fleet, stepped, written⟩ := map_eq_some_iff.mp taken
    subst written
    refine .ofFleet fleetEvent rfl ?_ stepped rfl rfl rfl
    intro serverId takes
    simpa [takes] using unblocked
  | begin | stop =>
    cases taken
    exact .ofPass rfl rfl
  | read pass =>
    simp only [PruningWorld.step, PruningWorld.read] at taken
    split at taken <;> cases taken
    exact .ofPass rfl rfl
  | decrypt pass =>
    simp only [PruningWorld.step, PruningWorld.decrypt] at taken
    repeat' split at taken
    all_goals cases taken
    all_goals exact .ofPass rfl rfl
  | abandon pass =>
    simp only [PruningWorld.step, PruningWorld.abandon] at taken
    split at taken <;> cases taken
    exact .ofPass rfl rfl
  | lose pass serverId =>
    obtain ⟨call, _, written⟩ := map_eq_some_iff.mp taken
    subst written
    exact .ofPass rfl rfl
  | deliver pass serverId admitted =>
    obtain ⟨call, found, written⟩ := map_eq_some_iff.mp taken
    subst written
    have member := mem_of_find?_eq_some found
    unfold PruningWorld.deliver
    split
    · refine .delivered call member rfl rfl (fun _ => mem_of_mem_erase) ?_
      intro job present
      simpa using present
    · exact .delivered call member rfl rfl (fun _ => mem_of_mem_erase) fun _ => Or.inl
  | drive pass serverId xrayEvent readable =>
    obtain ⟨job, found, driven⟩ := bind_eq_some_iff.mp taken
    obtain ⟨rfl, rfl⟩ : job.call.pass = pass ∧ job.call.serverId = serverId := by
      simpa [PruneCall.named] using find?_some found
    exact drive_pruningChange (mem_of_find?_eq_some found) driven
  | receive pass serverId =>
    obtain ⟨reply, _, received⟩ := bind_eq_some_iff.mp taken
    unfold PruningWorld.receive at received
    repeat' split at received
    all_goals cases received
    exact .ofPass rfl rfl
  | loseReply pass serverId =>
    obtain ⟨reply, _, written⟩ := map_eq_some_iff.mp taken
    subst written
    exact .ofPass rfl rfl

end

def beforePrunes (fleet : World) : PruningWorld where
  fleet := fleet
  passes := []
  nextPass := 0
  calls := []
  jobs := []
  replies := []

end Nebula.Pruning
