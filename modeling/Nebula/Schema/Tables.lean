import Mathlib.Tactic.MkIffOfInductiveProp
import Nebula.Schema.Vocabulary
import Nebula.Store

/-!
# The tables and their constraints

The columns of `models/` that the provisioning, reconciliation and quota services read or write.
`Database` carries the constraints the schema declares, so a transaction that breaks one has no
state to commit to.

`WireGuardPeer` and `XrayClient` share every column those services use except the ones of `Runtime`;
the code is written over both, and so is `Row`.
-/

namespace Nebula.Schema

open Store

structure User where
  id : Uuid
  state : AccountState
  expiresAt : Option Instant
  trafficQuotaBytes : Option Nat
  trafficBaselineBytes : Nat
  quotaExhaustedAt : Option Instant

structure Device where
  id : Uuid
  userId : Uuid
  state : LifecycleState

structure Permission where
  userId : Uuid
  profileId : Uuid
  state : CapabilityState
  expiresAt : Option Instant

structure Assignment where
  userId : Uuid
  serverId : Uuid
  state : LifecycleState
  expiresAt : Option Instant
  deriving DecidableEq

structure Server where
  id : Uuid
  code : ServerCode
  state : ServerState
  maximumDevices : Nat
  wireguardClientPool : Option IPNetwork
  wireguardGatewayAddress : Option IPAddress

structure Profile where
  id : Uuid
  code : ProfileCode
  agentProfileCode : Option ProfileCode
  state : ProfileState

/-- `agent_profile_code or code`: the name the agent knows the profile by. -/
def Profile.agentCode (profile : Profile) : ProfileCode :=
  profile.agentProfileCode.getD profile.code

structure Capability where
  serverId : Uuid
  profileId : Uuid
  state : CapabilityState
  capacityLimit : Option Nat

/-- The columns of only one table. An Xray client's UUID is encrypted; `Credential.readable` says
whether the key ring still opens it. -/
inductive Runtime where
  | wireguardPeer (publicKey : PublicKey) (assignedAddress : IPAddress)
  | xrayClient (clientUuid : Uuid)
  deriving DecidableEq

def Runtime.kind : Runtime → TargetKind
  | .wireguardPeer _ _ => .wireguardPeer
  | .xrayClient _ => .xrayClient

inductive Identity where
  | peer (publicKey : PublicKey)
  | client (clientUuid : Uuid)
  deriving DecidableEq

def Runtime.identity : Runtime → Identity
  | .wireguardPeer publicKey _ => .peer publicKey
  | .xrayClient clientUuid => .client clientUuid

def Identity.kind : Identity → TargetKind
  | .peer _ => .wireguardPeer
  | .client _ => .xrayClient

@[simp] theorem Runtime.identity_kind {runtime : Runtime} :
    runtime.identity.kind = runtime.kind := by
  cases runtime <;> rfl

structure Row where
  id : Uuid
  credentialId : Uuid
  deviceId : Uuid
  profileId : Uuid
  serverId : Uuid
  runtime : Runtime
  state : ProvisioningState
  appliedGeneration : Nat
  appliedAt : Option Instant
  revokedAt : Option Instant
  updatedAt : Instant
  deriving DecidableEq

def Row.kind (row : Row) : TargetKind :=
  row.runtime.kind

def Row.identity (row : Row) : Identity :=
  row.runtime.identity

def Row.live (row : Row) : Bool :=
  row.state.live

structure Credential where
  id : Uuid
  kind : CredentialKind
  deviceId : Uuid
  profileId : Uuid
  serverId : Uuid
  state : ProvisioningState
  issuedAt : Instant
  revokedAt : Option Instant
  readable : Bool
  deriving DecidableEq

structure Operation where
  id : Uuid
  serverId : Uuid
  idempotencyKey : Uuid
  operationKind : OperationKind
  targetKind : TargetKind
  targetId : Uuid
  state : OperationState
  desiredGeneration : Nat
  attemptCount : Nat
  requestedAt : Instant
  startedAt : Option Instant
  finishedAt : Option Instant

inductive Protocol where
  | wireguard
  | xray
  | hysteria2
  deriving DecidableEq

/-- A `credential_usage` row; an identity stands for its digest. -/
structure CredentialUsage where
  protocol : Protocol
  identity : Identity
  rxBytes : Nat
  txBytes : Nat
  lastRxReading : Nat
  lastTxReading : Nat
  lastCollectedAt : Option Instant

structure Tables where
  users : List User
  devices : List Device
  permissions : List Permission
  assignments : List Assignment
  servers : List Server
  profiles : List Profile
  capabilities : List Capability
  rows : List Row
  credentials : List Credential
  operations : List Operation
  usage : List CredentialUsage

section

variable (tables : Tables)

variable (id : Uuid)

def Tables.user : Option User :=
  lookup User.id id tables.users

def Tables.device : Option Device :=
  lookup Device.id id tables.devices

def Tables.row : Option Row :=
  lookup Row.id id tables.rows

def Tables.credential : Option Credential :=
  lookup Credential.id id tables.credentials

def Tables.operation : Option Operation :=
  lookup Operation.id id tables.operations

def Tables.server : Option Server :=
  lookup Server.id id tables.servers

def Tables.profile : Option Profile :=
  lookup Profile.id id tables.profiles

def Tables.owner (deviceId : Uuid) : Option Uuid :=
  (tables.device deviceId).map Device.userId

def Tables.runningOperation (kind : TargetKind) (targetId : Uuid) : Option Operation :=
  tables.operations.find? fun operation =>
    operation.targetKind == kind && operation.targetId == targetId &&
      operation.state == .running

end

section

variable (tables : Tables)

def Tables.writeRow (id : Uuid) (write : Row → Row) : Tables :=
  { tables with rows := updateWhere (fun row => row.id == id) write tables.rows }

def Tables.writeCredential (id : Uuid) (write : Credential → Credential) : Tables :=
  { tables with
    credentials := updateWhere (fun credential => credential.id == id) write tables.credentials }

def Tables.writeOperation (id : Uuid) (write : Operation → Operation) : Tables :=
  { tables with
    operations := updateWhere (fun operation => operation.id == id) write tables.operations }

def Tables.writeUser (id : Uuid) (write : User → User) : Tables :=
  { tables with users := updateWhere (fun user => user.id == id) write tables.users }

def Tables.addOperation (operation : Operation) : Tables :=
  { tables with operations := tables.operations ++ [operation] }

end

variable (row : Row)

/-- `uq_wireguard_peers_public_key_live`. -/
def peerKeyLive : Option (Uuid × PublicKey) :=
  match row.live, row.runtime with
  | true, .wireguardPeer publicKey _ => some (row.serverId, publicKey)
  | _, _ => none

/-- `uq_wireguard_peers_server_address_live`. -/
def peerAddressLive : Option (Uuid × IPAddress) :=
  match row.live, row.runtime with
  | true, .wireguardPeer _ assignedAddress => some (row.serverId, assignedAddress)
  | _, _ => none

/-- `uq_wireguard_peers_live_device`. -/
def peerDeviceLive : Option (Uuid × Uuid) :=
  match row.live, row.runtime with
  | true, .wireguardPeer _ _ => some (row.deviceId, row.serverId)
  | _, _ => none

/-- `uq_xray_clients_live_device_profile`. -/
def clientDeviceLive : Option (Uuid × Uuid × Uuid) :=
  match row.live, row.runtime with
  | true, .xrayClient _ => some (row.deviceId, row.profileId, row.serverId)
  | _, _ => none

/-- `uq_device_protocol_credentials_live_device_profile`. -/
def credentialLive (credential : Credential) : Option (Uuid × Uuid × Uuid) :=
  if credential.state.live then
    some (credential.deviceId, credential.profileId, credential.serverId)
  else none

/-- `uq_agent_operations_inflight_target`. -/
def operationInflight (operation : Operation) : Option (Uuid × TargetKind × Uuid) :=
  if operation.state.inflight then
    some (operation.serverId, operation.targetKind, operation.targetId)
  else none

def revocationAfterApply : Bool :=
  match row.revokedAt, row.appliedAt with
  | some revokedAt, some appliedAt => appliedAt ≤ revokedAt
  | _, _ => true

/-- `revocation_after_issue` and `revoked_state_timestamp`. -/
def credentialTimes (credential : Credential) : Bool :=
  match credential.revokedAt with
  | some revokedAt => credential.issuedAt ≤ revokedAt
  | none => credential.state != .revoked

/-- `start_after_request`, `finish_after_start` and `attempt_count_range`. -/
def operationTimes (operation : Operation) : Bool :=
  (match operation.startedAt with
    | some startedAt => operation.requestedAt ≤ startedAt
    | none => true) &&
  (match operation.startedAt, operation.finishedAt with
    | some startedAt, some finishedAt => startedAt ≤ finishedAt
    | _, _ => true) &&
  operation.attemptCount ≤ 100

def TargetKind.credentialKind : TargetKind → CredentialKind
  | .wireguardPeer => .wireguardPublic
  | .xrayClient => .xrayBearer

/-- `fk_wireguard_peers_credential_identity` and its Xray sibling. -/
def credentialMatches (credential : Credential) : Bool :=
  credential.id == row.credentialId && credential.kind == TargetKind.credentialKind row.kind &&
    credential.deviceId == row.deviceId && credential.profileId == row.profileId &&
    credential.serverId == row.serverId

@[mk_iff]
structure Tables.Consistent (tables : Tables) : Prop where
  userIds : (tables.users.map User.id).Nodup
  deviceIds : (tables.devices.map Device.id).Nodup
  rowIds : (tables.rows.map Row.id).Nodup
  rowCredentialIds : (tables.rows.map Row.credentialId).Nodup
  credentialIds : (tables.credentials.map Credential.id).Nodup
  operationIds : (tables.operations.map Operation.id).Nodup
  idempotencyKeys : (tables.operations.map Operation.idempotencyKey).Nodup
  serverIds : (tables.servers.map Server.id).Nodup
  capabilityPairs : (tables.capabilities.map fun capability =>
    (capability.serverId, capability.profileId)).Nodup
  permissionPairs : (tables.permissions.map fun permission =>
    (permission.userId, permission.profileId)).Nodup
  peerKeys : UniqueOn peerKeyLive tables.rows
  peerAddresses : UniqueOn peerAddressLive tables.rows
  peerDevices : UniqueOn peerDeviceLive tables.rows
  clientDevices : UniqueOn clientDeviceLive tables.rows
  credentials : UniqueOn credentialLive tables.credentials
  inflight : UniqueOn operationInflight tables.operations
  rowTimes : ∀ row ∈ tables.rows, revocationAfterApply row = true
  credentialTimes : ∀ credential ∈ tables.credentials, credentialTimes credential = true
  operationTimes : ∀ operation ∈ tables.operations, operationTimes operation = true
  rowCredentials : ∀ row ∈ tables.rows, ∃ credential ∈ tables.credentials,
    credentialMatches row credential = true
  rowDevices : ∀ row ∈ tables.rows, ∃ device ∈ tables.devices, device.id = row.deviceId
  rowProfiles : ∀ row ∈ tables.rows, ∃ profile ∈ tables.profiles, profile.id = row.profileId

instance (tables : Tables) : Decidable tables.Consistent :=
  decidable_of_iff' _ (Tables.consistent_iff tables)

structure Database where
  tables : Tables
  consistent : tables.Consistent

/-- Commit what a transaction wrote; a broken constraint aborts it. The final tables are checked, not
each statement: the composite key, not deferrable, refuses the two updates by which a connect moves
a peer to another profile, and here they go through. -/
def commit (written : Tables) : Option Database :=
  if consistent : written.Consistent then some ⟨written, consistent⟩ else none

theorem commit_tables {written : Tables} {database : Database}
    (committed : commit written = some database) : database.tables = written := by
  unfold commit at committed
  split at committed
  · cases committed
    rfl
  · cases committed

end Nebula.Schema
