import Nebula.ControlPlane.State

/-!
# The provisioning service

`ProvisioningService` of `provisioning/service.py`. Another transaction can commit between the
statements of a connect, so it is three steps: the checks, the lookup with the capacity check and
the allocation, and the insertion. It then calls the agent and finalizes in a second transaction.
A disconnect reads and writes only rows it has locked.
-/

namespace Nebula.ControlPlane

open Schema

inductive Refusal where
  | provisioningRejected
  | provisioningRateLimited
  | serverUnderMaintenance
  | trafficQuotaExhausted
  | operationInProgress

structure ConnectRequest where
  userId : Uuid
  deviceId : Uuid
  serverCode : ServerCode
  protocolProfileCode : ProfileCode
  publicKey : Option PublicKey

structure DisconnectRequest where
  userId : Uuid
  deviceId : Uuid
  serverCode : ServerCode
  /-- `none` for `revoke_peer`, the profile for `revoke_xray_client`. -/
  protocolProfileCode : Option ProfileCode

def unexpired (expiresAt : Option Instant) (now : Instant) : Bool :=
  match expiresAt with
  | some instant => now < instant
  | none => true

def permitted (now : Instant) (permission : Permission) : Bool :=
  permission.state == .enabled && unexpired permission.expiresAt now

def assigned (now : Instant) (assignment : Assignment) : Bool :=
  assignment.state == .active && unexpired assignment.expiresAt now

/-- What `session.scalar` returned is a grant. -/
def requireGrant {Grant : Type} (grants : Grant → Bool) (returned : Option Grant) :
    Except Refusal Unit :=
  if returned.any grants then .ok () else .error .provisioningRejected

section

variable (tables : Tables)

def requireTrafficAllowance (userId : Uuid) : Except Refusal Unit :=
  match (tables.user userId).bind User.quotaExhaustedAt with
  | some _ => .error .trafficQuotaExhausted
  | none => .ok ()

def requireProfile (code : ProfileCode) : Except Refusal Profile :=
  match tables.profiles.find? fun profile =>
      profile.code == code && profile.state == .implemented with
  | some profile => .ok profile
  | none => .error .provisioningRejected

def serverByCode (code : ServerCode) : Option Server :=
  tables.servers.find? fun server => server.code == code

def capabilityOf (serverId profileId : Uuid) : Option Capability :=
  tables.capabilities.find? fun capability =>
    capability.serverId == serverId && capability.profileId == profileId

def requireActiveServer (code : ServerCode) (profileId : Uuid) :
    Except Refusal (Server × Capability) :=
  match serverByCode tables code with
  | none => .error .provisioningRejected
  | some server =>
    match server.state with
    | .maintenance => .error .serverUnderMaintenance
    | .disabled => .error .provisioningRejected
    | .active =>
      match capabilityOf tables server.id profileId with
      | some capability =>
        if capability.state = .enabled then .ok (server, capability)
        else .error .provisioningRejected
      | none => .error .provisioningRejected

def requirePermission (userId profileId : Uuid) (now : Instant) : Except Refusal Unit :=
  requireGrant (permitted now) (tables.permissions.find? fun permission =>
    permission.userId == userId && permission.profileId == profileId)

def requireAssignment (userId serverId : Uuid) (now : Instant) : Except Refusal Unit :=
  requireGrant (assigned now) (tables.assignments.find? fun assignment =>
    assignment.userId == userId && assignment.serverId == serverId)

def requireDevice (userId deviceId : Uuid) : Except Refusal Device :=
  match tables.devices.find? fun device =>
      device.id == deviceId && device.userId == userId with
  | some device => .ok device
  | none => .error .provisioningRejected

/-- Everything phase A checks before it looks for an existing row. -/
def connectChecks (request : ConnectRequest) (allowed : Bool) (now : Instant) :
    Except Refusal Connect := do
  if !(request.publicKey.all publicKeyAccepted) then throw .provisioningRejected
  if !allowed then throw .provisioningRateLimited
  let device ← requireDevice tables request.userId request.deviceId
  if device.state ≠ .active then throw .provisioningRejected
  requireTrafficAllowance tables request.userId
  let profile ← requireProfile tables request.protocolProfileCode
  let (server, capability) ← requireActiveServer tables request.serverCode profile.id
  requirePermission tables request.userId profile.id now
  requireAssignment tables request.userId server.id now
  return ⟨request.deviceId, request.publicKey, profile, server, capability, now⟩

variable (kind : TargetKind)

/-- One peer for all profiles, one Xray client for each. -/
def liveRowOf (deviceId serverId : Uuid) (profileId : Option Uuid) :
    Option Row :=
  tables.rows.find? fun row =>
    row.kind == kind && row.deviceId == deviceId && row.serverId == serverId && row.live &&
      profileId.all fun wanted => row.profileId == wanted

def holdsSlot (serverId : Uuid) (row : Row) : Bool :=
  row.kind == kind && row.serverId == serverId && row.live

def liveCount (serverId : Uuid) : Nat :=
  tables.rows.countP (holdsSlot kind serverId)

def effectiveLimit (server : Server) (capability : Capability) : Nat :=
  match capability.capacityLimit with
  | some limit => min server.maximumDevices limit
  | none => server.maximumDevices

def requireCapacity (server : Server) (capability : Capability) :
    Except Refusal Unit :=
  if liveCount tables kind server.id ≥ effectiveLimit server capability then
    .error .provisioningRejected
  else .ok ()

def liveAddresses (serverId : Uuid) : List IPAddress :=
  tables.rows.filterMap fun row =>
    match row.runtime with
    | .wireguardPeer _ assignedAddress =>
      if row.serverId == serverId && row.live then some assignedAddress else none
    | .xrayClient _ => none

def allocateAddress (server : Server) : Except Refusal IPAddress :=
  match server.wireguardClientPool with
  | none => .error .provisioningRejected
  | some pool =>
    match allocateNextAddress pool server.wireguardGatewayAddress
        (liveAddresses tables server.id) with
    | some address => .ok address
    | none => .error .provisioningRejected

/-- Capacity and address under the allocation lock; an Xray client has no address. -/
def allocate (connect : Connect) : Except Refusal (Option IPAddress) := do
  requireCapacity tables connect.kind connect.server connect.capability
  match connect.kind with
  | .wireguardPeer => some <$> allocateAddress tables connect.server
  | .xrayClient => return none

end

def newOperation (id idempotencyKey serverId : Uuid) (kind : OperationKind) (row : Row)
    (desiredGeneration attemptCount : Nat) (now : Instant) : Operation where
  id := id
  serverId := serverId
  idempotencyKey := idempotencyKey
  operationKind := kind
  targetKind := row.kind
  targetId := row.id
  state := .running
  desiredGeneration := desiredGeneration
  attemptCount := attemptCount
  requestedAt := now
  startedAt := some now
  finishedAt := none

def serviceCall (operation : Operation) (row : Row) (profileCode : Option ProfileCode) :
    ServiceCall where
  credentialId := row.credentialId
  operationId := operation.id
  serverId := operation.serverId
  request :=
    { idempotencyKey := operation.idempotencyKey
      operationKind := operation.operationKind
      targetId := row.id
      desiredGeneration := operation.desiredGeneration
      runtime := row.runtime
      profileCode := profileCode }

def Connect.profileCode (connect : Connect) : Option ProfileCode :=
  match connect.kind with
  | .wireguardPeer => none
  | .xrayClient => some connect.profile.agentCode

/-- An active row taken up again: a peer adopts the request's key and profile and keeps its address.
-/
def reconnectedRow (connect : Connect) (row : Row) : Row :=
  match connect.publicKey, row.runtime with
  | some publicKey, .wireguardPeer _ assignedAddress =>
    { row with
      runtime := .wireguardPeer publicKey assignedAddress
      profileId := connect.profile.id
      state := .applying
      updatedAt := connect.now }
  | _, _ => { row with state := .applying, updatedAt := connect.now }

def reconnectedCredential (connect : Connect) (credential : Credential) : Credential :=
  match connect.publicKey with
  | some _ => { credential with profileId := connect.profile.id, state := .applying }
  | none => { credential with state := .applying }

variable (tables : Tables)

def endTask (id : TaskId) : Plan :=
  ⟨tables, some id, none, []⟩

variable (state : State) (connect : Connect)

def State.deviceHeld (deviceId : Uuid) : Bool :=
  state.tasks.any fun entry => entry.2.connect.any fun connect => connect.deviceId == deviceId

def State.allocationHeld (kind : TargetKind) (serverId : Uuid) : Bool :=
  state.tasks.any fun entry => entry.2.allocating.any fun connect =>
    connect.kind == kind && connect.server.id == serverId

def connectCheck (request : ConnectRequest) (allowed : Bool) (now : Instant) :
    Option Plan :=
  if state.deviceHeld request.deviceId then none
  else match connectChecks state.tables request allowed now with
    | .ok connect => some ⟨state.tables, none, none, [.connectChecked connect]⟩
    | .error _ => some ⟨state.tables, none, none, []⟩

variable (id : TaskId)

def reconnect (connect : Connect) (row : Row) : Plan :=
  if row.state ≠ .active then endTask state.tables id
  else match state.tables.credential row.credentialId with
    | none => endTask state.tables id
    | some credential =>
      if connect.kind = .xrayClient ∧ credential.readable = false then
        endTask state.tables id
      else
        let operation := newOperation state.nextUuid (state.nextUuid + 1) connect.server.id
          .provisionDevice row (row.appliedGeneration + 1) 0 connect.now
        ⟨((state.tables.writeRow row.id (reconnectedRow connect)).writeCredential
            credential.id (reconnectedCredential connect)).addOperation operation,
          some id,
          some (.calling (serviceCall operation (reconnectedRow connect row)
            connect.profileCode)),
          []⟩

def connectLookup : Option Plan :=
  match state.task id with
  | some (.connectChecked connect) =>
    match liveRowOf state.tables connect.kind connect.deviceId connect.server.id
        (match connect.kind with
          | .wireguardPeer => none
          | .xrayClient => some connect.profile.id) with
    | some row => some (reconnect state id connect row)
    | none =>
      -- `pg_advisory_xact_lock` waits while another connect allocates.
      if state.allocationHeld connect.kind connect.server.id then none
      else match allocate state.tables connect with
        | .ok address =>
          some ⟨state.tables, some id, some (.connectAllocated connect address), []⟩
        | .error _ => some (endTask state.tables id)
  | _ => none

def newCredential (id : Uuid) : Credential where
  id := id
  kind := TargetKind.credentialKind connect.kind
  deviceId := connect.deviceId
  profileId := connect.profile.id
  serverId := connect.server.id
  state := .requested
  issuedAt := connect.now
  revokedAt := none
  readable := true

def newRow (id credentialId : Uuid) (runtime : Runtime) : Row where
  id := id
  credentialId := credentialId
  deviceId := connect.deviceId
  profileId := connect.profile.id
  serverId := connect.server.id
  runtime := runtime
  state := .applying
  appliedGeneration := 0
  appliedAt := none
  revokedAt := none
  updatedAt := connect.now

def newRuntime (address : Option IPAddress) (uuid : Uuid) :
    Option Runtime :=
  match connect.publicKey, address with
  | some publicKey, some address => some (.wireguardPeer publicKey address)
  | none, _ => some (.xrayClient uuid)
  | some _, none => none

def connectCommit : Option Plan :=
  match state.task id with
  | some (.connectAllocated connect address) =>
    match newRuntime connect address (state.nextUuid + 4) with
    | none => none
    | some runtime =>
      let credential := newCredential connect state.nextUuid
      let row := newRow connect (state.nextUuid + 1) state.nextUuid runtime
      let operation := newOperation (state.nextUuid + 2) (state.nextUuid + 3)
        connect.server.id .provisionDevice row 1 0 connect.now
      some
        ⟨{ state.tables with
            rows := state.tables.rows ++ [row]
            credentials := state.tables.credentials ++ [credential]
            operations := state.tables.operations ++ [operation] },
          some id,
          some (.calling (serviceCall operation row connect.profileCode)),
          []⟩
  | _ => none

structure Disconnect where
  server : Server
  profile : Option Profile
  row : Row
  credential : Credential

def requireServer (code : ServerCode) : Except Refusal Server :=
  match serverByCode tables code with
  | some server => .ok server
  | none => .error .provisioningRejected

def requestedProfile : Option ProfileCode → Except Refusal (Option Profile)
  | some code => (requireProfile tables code).map some
  | none => .ok none

def disconnectKind : Option Profile → TargetKind
  | some _ => .xrayClient
  | none => .wireguardPeer

def requireActiveRow (kind : TargetKind) (deviceId serverId : Uuid)
    (profileId : Option Uuid) : Except Refusal (Row × Credential) :=
  match liveRowOf tables kind deviceId serverId profileId with
  | none => .error .provisioningRejected
  | some row =>
    if row.state ≠ .active then .error .operationInProgress
    else match tables.credential row.credentialId with
      | none => .error .provisioningRejected
      | some credential =>
        if kind = .xrayClient ∧ credential.readable = false then
          .error .provisioningRejected
        else .ok (row, credential)

def disconnectChecks (request : DisconnectRequest) (allowed : Bool) :
    Except Refusal Disconnect := do
  if !allowed then throw .provisioningRateLimited
  let device ← requireDevice tables request.userId request.deviceId
  let server ← requireServer tables request.serverCode
  let profile ← requestedProfile tables request.protocolProfileCode
  let (row, credential) ← requireActiveRow tables (disconnectKind profile) device.id server.id
    (profile.map Profile.id)
  return ⟨server, profile, row, credential⟩

def revokingRow (now : Instant) (row : Row) : Row :=
  { row with state := .revoking, updatedAt := now }

def disconnectPlan (now : Instant) (disconnect : Disconnect) : Plan :=
  let operation := newOperation state.nextUuid (state.nextUuid + 1) disconnect.server.id
    .revokeDevice disconnect.row disconnect.row.appliedGeneration 0 now
  ⟨((state.tables.writeRow disconnect.row.id (revokingRow now)).writeCredential
      disconnect.credential.id fun credential =>
        { credential with state := .revoking }).addOperation operation,
    none,
    none,
    [.calling (serviceCall operation disconnect.row
      (disconnect.profile.map Profile.agentCode))]⟩

def disconnect (request : DisconnectRequest) (allowed : Bool) (now : Instant) :
    Option Plan :=
  if state.deviceHeld request.deviceId then none
  else match disconnectChecks state.tables request allowed with
    | .ok disconnect => some (disconnectPlan state now disconnect)
    | .error _ => some ⟨state.tables, none, none, []⟩

variable (call : ServiceCall)

/-- The three rows of an operation; `_lock_triple` fails when one is gone. -/
def writeTriple (row : Row → Row)
    (credential : Credential → Credential) (operation : Operation → Operation) : Option Tables :=
  match tables.row call.request.targetId, tables.credential call.credentialId,
      tables.operation call.operationId with
  | some _, some _, some _ =>
    some (((tables.writeRow call.request.targetId row).writeCredential call.credentialId
      credential).writeOperation call.operationId operation)
  | _, _, _ => none

def finishOperation (state : OperationState) (now : Instant) (operation : Operation) :
    Operation :=
  { operation with state := state, finishedAt := some now }

def finalizeProvisionSuccess (generation : Nat)
    (now : Instant) : Option Tables :=
  writeTriple tables call
    (fun row => { row with
      state := .active
      appliedGeneration := generation
      appliedAt := some now
      updatedAt := now })
    (fun credential => { credential with state := .active })
    (finishOperation .succeeded now)

def finalizeRevokeSuccess (now : Instant) :
    Option Tables :=
  writeTriple tables call
    (fun row => { row with state := .revoked, revokedAt := some now, updatedAt := now })
    (fun credential => { credential with state := .revoked, revokedAt := some now })
    (finishOperation .succeeded now)

def pendingState (removalPending : Bool) : ProvisioningState :=
  if removalPending then .revoking else .failed

def finalizeFailure (removalPending : Bool)
    (now : Instant) : Option Tables :=
  writeTriple tables call
    (fun row => { row with state := pendingState removalPending, updatedAt := now })
    (fun credential => { credential with state := pendingState removalPending })
    (finishOperation .failed now)

def finalizeCall (applied : Option Nat) (now : Instant) :
    Option Tables :=
  match call.request.operationKind, applied with
  | .provisionDevice, some generation => finalizeProvisionSuccess tables call generation now
  | .revokeDevice, some _ => finalizeRevokeSuccess tables call now
  | .provisionDevice, none => finalizeFailure tables call false now
  | .revokeDevice, none => finalizeFailure tables call true now

def finalize (now : Instant) : Option Plan :=
  match state.task id with
  | some (.finalizing call applied) =>
    some (endTask ((finalizeCall state.tables call applied now).getD state.tables) id)
  | _ => none

end Nebula.ControlPlane
