import Nebula.Agent.WireGuard
import Nebula.Agent.Xray
import Nebula.ControlPlane.Machine

/-!
# Control plane, network and agents

A call the control plane makes waits in the network until it is delivered, lost or refused; the
agent handles it as a `Job`; its answer travels back as a `Reply`, or is lost. The control plane
can give a call up while the agent still works on it.

A reply keeps what was true of the agent and of the calls under way when the answer was produced,
and a task keeps this of its last answer. No step reads it.
-/

namespace Nebula.Fleet

open Schema ControlPlane Agent

/-- A `nebula_agent` process: both drivers and the ledger they share. -/
structure AgentState where
  ledger : Ledger
  interface : Interface
  files : XrayFiles
  deriving DecidableEq

inductive Phase where
  | wireguard (phase : WireGuardPhase)
  | xray (phase : XrayPhase)
  deriving DecidableEq

inductive DriverEvent where
  | wireguard (event : WireGuardEvent)
  | xray (event : XrayEvent)
  deriving DecidableEq

def peerChange (request : AgentRequest) (publicKey : PublicKey) (address : IPAddress) :
    PeerChange :=
  ⟨request.operationKind, publicKey, address, request.desiredGeneration⟩

def callChange : AgentCall → Option PeerChange
  | .operate request =>
    match request.runtime with
    | .wireguardPeer publicKey address => some (peerChange request publicKey address)
    | .xrayClient _ => none
  | .reconcile _ _ _ _ => none

def clientChange (request : AgentRequest) (clientUuid : Uuid) (code : ProfileCode) :
    ClientChange :=
  ⟨request.operationKind, clientUuid, code, request.desiredGeneration⟩

def callClientChange : AgentCall → Option ClientChange
  | .operate request =>
    match request.runtime, request.profileCode with
    | .xrayClient clientUuid, some code => some (clientChange request clientUuid code)
    | _, _ => none
  | .reconcile _ _ _ _ => none

def wireguardOutcome : Outcome WireGuardPhase → Outcome Phase
  | .goesOn phase => .goesOn (.wireguard phase)
  | .answers answer => .answers answer

def xrayOutcome : Outcome XrayPhase → Outcome Phase
  | .goesOn phase => .goesOn (.xray phase)
  | .answers answer => .answers answer

variable (agent : AgentState)

/-- The agent's routes up to the driver's first wait. An Xray request without a profile fails
validation. -/
def AgentState.accept (readable : Bool) :
    AgentCall → AgentState × Outcome Phase
  | .operate request =>
    match dispatchLedgered agent.ledger request with
    | some answer => (agent, .answers answer)
    | none =>
      match request.runtime, request.profileCode with
      | .wireguardPeer publicKey address, _ =>
        let started := (peerChange request publicKey address).start agent.interface
        ({ agent with interface := started.1 }, wireguardOutcome started.2)
      | .xrayClient _, some _ => (agent, .goesOn (.xray .locking))
      | .xrayClient _, none => (agent, .answers .rejected)
  | .reconcile _ _ runtime profileCode =>
    match runtime, profileCode with
    | .wireguardPeer _ _, _ => (agent, .goesOn (.wireguard .showing))
    | .xrayClient clientUuid, some code =>
      (agent, .answers (reconcileClient agent.files readable clientUuid code))
    | .xrayClient _, none => (agent, .answers .rejected)

def AgentState.drive (call : AgentCall) (phase : Phase)
    (event : DriverEvent) : Option (AgentState × Outcome Phase) :=
  match call, phase, event with
  | .operate request, .wireguard phase, .wireguard event =>
    match request.runtime with
    | .wireguardPeer publicKey address =>
      ((peerChange request publicKey address).step agent.interface phase event).map
        fun stepped =>
          ({ agent with interface := stepped.1 }, wireguardOutcome stepped.2)
    | .xrayClient _ => none
  | .operate request, .xray phase, .xray event =>
    match request.runtime, request.profileCode with
    | .xrayClient clientUuid, some code =>
      ((clientChange request clientUuid code).step agent.files phase event).map fun stepped =>
        ({ agent with files := stepped.1 }, xrayOutcome stepped.2)
    | _, _ => none
  | .reconcile _ _ (.wireguardPeer publicKey address) _, .wireguard phase, .wireguard event =>
    (probeStep agent.interface publicKey address phase event).map fun outcome =>
      (agent, wireguardOutcome outcome)
  | _, _, _ => none

def AgentState.recordCall (call : AgentCall) (answer : AgentAnswer) :
    AgentState :=
  match call with
  | .operate request => { agent with ledger := recordAnswer agent.ledger request answer }
  | .reconcile _ _ _ _ => agent

def AgentState.settled (call : AgentCall) : Outcome Phase → AgentState
  | .goesOn _ => agent
  | .answers answer => agent.recordCall call answer

structure Flow where
  serverId : Uuid
  targetId : Uuid
  identity : Identity
  deriving DecidableEq

def requestFlow (serverId : Uuid) (request : AgentRequest) : Flow :=
  ⟨serverId, request.targetId, request.runtime.identity⟩

def checkFlow (check : RowCheck) : Flow :=
  ⟨check.snapshot.serverId, check.snapshot.id, check.snapshot.identity⟩

/-- The direction a task works in; a row check's is what it will ask for if the agent disagrees. -/
def taskFlow : Task → Option (OperationKind × Flow)
  | .calling call | .finalizing call _ =>
    some (call.request.operationKind, requestFlow call.serverId call.request)
  | .queued check | .probing check | .recovering check _ | .repairing check
  | .repairCalling check _ _ | .repairFinalizing check _ _ _ =>
    some (check.operationKind, checkFlow check)
  | _ => none

def envelopeFlow (envelope : Envelope) : Option (OperationKind × Flow) :=
  match envelope.call with
  | .operate request => some (request.operationKind, requestFlow envelope.serverId request)
  | .reconcile _ _ _ _ => none

structure Job where
  envelope : Envelope
  phase : Phase
  deriving DecidableEq

structure Evidence where
  serverId : Uuid
  agent : AgentState
  provisions : List Flow
  deriving DecidableEq

structure Reply where
  envelope : Envelope
  answer : AgentAnswer
  evidence : Evidence
  deriving DecidableEq

structure World where
  plane : State
  net : List Envelope
  jobs : List Job
  agents : Uuid → AgentState
  replies : List Reply
  evidence : TaskId → Option Evidence

variable (world : World) (envelope : Envelope) (agent : AgentState) (serverId : Uuid)

def World.underWay : List Envelope :=
  world.net ++ world.jobs.map Job.envelope

def World.flows : List (OperationKind × Flow) :=
  world.plane.tasks.filterMap (fun entry => taskFlow entry.2) ++
    world.underWay.filterMap envelopeFlow

def flowsOf (kind : OperationKind) (flows : List (OperationKind × Flow)) : List Flow :=
  (flows.filter fun flow => flow.1 == kind).map Prod.snd

def World.provisions : List Flow :=
  flowsOf .provisionDevice world.flows

def World.awaits : Bool :=
  (world.plane.task envelope.task).bind Task.outgoing ==
    some (envelope.serverId, envelope.call)

inductive WorldEvent where
  | plane (event : Event)
  | refuse (task : TaskId)
  | giveUp (task : TaskId) (invalid : Bool)
  | lose (task : TaskId)
  | deliver (task : TaskId) (readable : Bool)
  | drive (task : TaskId) (event : DriverEvent)
  | receive (task : TaskId)
  | loseReply (task : TaskId)
  | restart (serverId : Uuid) (ledgerEntries : Nat) (kernel : List KernelPeer)
  | resync (serverId : Uuid)
  | editInterface (serverId : Uuid) (kernel : List KernelPeer)
  | editServed (serverId : Uuid) (xrayConfig : List (ProfileCode × Uuid))
    (hysteriaConfig : HysteriaConfig)

def World.setAgent (agent : AgentState) : World :=
  { world with agents := fun id => if id = serverId then agent else world.agents id }

def World.advance (event : Event) : Option World :=
  (ControlPlane.step world.plane event).map fun plane =>
    { world with
      plane := plane
      net := world.net ++ plane.sent.drop world.plane.sent.length }

def Event.isAnswer : Event → Bool
  | .answer _ _ => true
  | _ => false

def World.respond (answer : AgentAnswer) : World :=
  { world.setAgent envelope.serverId agent with
    replies := world.replies ++ [⟨envelope, answer, ⟨envelope.serverId, agent, world.provisions⟩⟩] }

def World.outstanding (task : TaskId) : Option Envelope :=
  world.net.find? fun envelope => envelope.task == task

def World.dropCall : World :=
  { world with net := world.net.erase envelope }

def World.deliver (readable : Bool) : World :=
  let accepted := (world.agents envelope.serverId).accept readable envelope.call
  match accepted.2 with
  | .goesOn phase =>
    { (world.dropCall envelope).setAgent envelope.serverId accepted.1 with
      jobs := world.jobs ++ [⟨envelope, phase⟩] }
  | .answers answer =>
    { world.respond envelope accepted.1 answer with net := world.net.erase envelope }

def Job.holdsLock (job : Job) : Bool :=
  match job.phase with
  | .xray phase => phase.holdsLock
  | .wireguard _ => false

def World.lockHeld : Bool :=
  world.jobs.any fun job => job.envelope.serverId == serverId && job.holdsLock

def World.drive (job : Job) (event : DriverEvent) : Option World :=
  if event = .xray .lockAcquired ∧ world.lockHeld job.envelope.serverId then none
  else match (world.agents job.envelope.serverId).drive job.envelope.call job.phase event with
    | none => none
    | some (agent, .goesOn phase) =>
      some { world.setAgent job.envelope.serverId agent with
        jobs := world.jobs.map fun other =>
          if other = job then ⟨job.envelope, phase⟩ else other }
    | some (agent, .answers answer) =>
      some { world.respond job.envelope
          (agent.settled job.envelope.call (.answers answer)) answer with
        jobs := world.jobs.filter fun other => other != job }

def World.receive (reply : Reply) : Option World :=
  if world.awaits reply.envelope then
    (world.advance (.answer reply.envelope.task reply.answer)).map fun next =>
      { next with
        replies := world.replies.erase reply
        evidence := fun task =>
          if task = reply.envelope.task then some reply.evidence else world.evidence task }
  else none

/-- The agent comes back without what it was doing and without a torn line; a started sync may have
got anywhere. -/
def World.restart (ledgerEntries : Nat)
    (kernel : List KernelPeer) : Option World :=
  let agent := world.agents serverId
  if agent.interface.partialSync kernel then
    some { world.setAgent serverId
        { agent with
          ledger := { agent.ledger with entries := agent.ledger.entries.take ledgerEntries }
          interface := { agent.interface with serverKeyKnown := false, kernel := kernel } } with
      jobs := world.jobs.filter fun job => job.envelope.serverId != serverId }
  else none

def World.step : WorldEvent → Option World
  | .plane event => if Event.isAnswer event then none else world.advance event
  | .refuse task =>
    (world.outstanding task).bind fun envelope =>
      if world.awaits envelope then
        (world.dropCall envelope).advance (.answer task .unreachable)
      else none
  | .giveUp task invalid =>
    world.advance (.answer task (if invalid then .invalid else .ambiguous))
  | .lose task => (world.outstanding task).map world.dropCall
  | .deliver task readable =>
    (world.outstanding task).map fun envelope => world.deliver envelope readable
  | .drive task event =>
    (world.jobs.find? fun job => job.envelope.task == task).bind fun job =>
      world.drive job event
  | .receive task =>
    (world.replies.find? fun reply => reply.envelope.task == task).bind world.receive
  | .loseReply task =>
    (world.replies.find? fun reply => reply.envelope.task == task).map fun reply =>
      { world with replies := world.replies.erase reply }
  | .restart serverId ledgerEntries kernel => world.restart serverId ledgerEntries kernel
  | .resync serverId =>
    if world.lockHeld serverId then none
    else
      let agent := world.agents serverId
      some (world.setAgent serverId { agent with files := agent.files.resync })
  | .editInterface serverId kernel =>
    let agent := world.agents serverId
    some (world.setAgent serverId
      { agent with interface := { agent.interface with kernel := kernel } })
  | .editServed serverId xrayConfig hysteriaConfig =>
    let agent := world.agents serverId
    some (world.setAgent serverId
      { agent with
        files := { agent.files with
          xrayConfig := xrayConfig
          hysteriaConfig := hysteriaConfig } })

def freshAgent : AgentState where
  ledger := ⟨[], 100⟩
  interface := ⟨⟨.v4, 0, 29⟩, false, [], none, []⟩
  files := ⟨⟨[50], some 60, false⟩, [], [], .userpass []⟩

def fleetOf (plane : State) : World where
  plane := plane
  net := []
  jobs := []
  agents := fun _ => freshAgent
  replies := []
  evidence := fun _ => none

def smallFleet : World :=
  fleetOf smallStart

def peerProvisioned : List WorldEvent :=
  peerInserted.map .plane ++ [.deliver 0 true, .drive 0 (.wireguard .keyDerived),
    .drive 0 (.wireguard .syncApplied), .drive 0 (.wireguard .syncSucceeded)]

def clientProvisioned : List WorldEvent :=
  [.plane (.connectCheck ⟨1, 2, 30, 50, none⟩ true 10), .plane (.connectLookup 0),
    .plane (.connectCommit 0), .deliver 0 true, .drive 0 (.xray .lockAcquired),
    .drive 0 (.xray .validated), .drive 0 (.xray .applied), .drive 0 (.xray .kicked)]

end Nebula.Fleet
