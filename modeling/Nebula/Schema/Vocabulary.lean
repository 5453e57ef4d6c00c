import Mathlib.Algebra.Ring.Nat
import Mathlib.Data.List.Basic

/-!
# Vocabulary of the control-plane schema

The enumerations of `nebula_api/models/types.py`, with the groups of states the services name, and
the address arithmetic of `provisioning/allocator.py`.

Identifiers, digests and instants are natural numbers: the code only compares them. A WireGuard
public key is the 256-bit number its base64 text stands for.
-/

namespace Nebula.Schema

abbrev Uuid := Nat

abbrev Instant := Nat

abbrev PublicKey := Nat

abbrev ServerCode := Nat

abbrev ProfileCode := Nat

inductive AccountState where
  | pendingActivation
  | active
  | suspended
  | disabled
  deriving DecidableEq

inductive LifecycleState where
  | active
  | revoked
  deriving DecidableEq

inductive ServerState where
  | active
  | maintenance
  | disabled

/-- `RUNNING_SERVER_STATES`: what an agent is still expected to answer for. -/
def ServerState.running : ServerState → Bool
  | .active | .maintenance => true
  | .disabled => false

inductive CapabilityState where
  | enabled
  | disabled
  deriving DecidableEq

inductive ProfileState where
  | draft
  | validated
  | implemented
  | deprecated
  deriving DecidableEq

inductive OperationState where
  | pending
  | running
  | succeeded
  | failed
  | cancelled
  deriving DecidableEq

/-- Covered by `uq_agent_operations_inflight_target`. -/
def OperationState.inflight : OperationState → Bool
  | .pending | .running => true
  | .succeeded | .failed | .cancelled => false

inductive ProvisioningState where
  | requested
  | applying
  | active
  | revoking
  | revoked
  | failed
  deriving DecidableEq

/-- `_LIVE_PEER_STATES`: the states that hold a slot, a key and an address. -/
def ProvisioningState.live : ProvisioningState → Bool
  | .requested | .applying | .active | .revoking => true
  | .revoked | .failed => false

/-- `_LIVE_CREDENTIAL_STATES`, `_ORPHANABLE_STATES` and `_LIVE`: what a revocation moves to
`revoking`. -/
def ProvisioningState.revocable : ProvisioningState → Bool
  | .requested | .applying | .active => true
  | .revoking | .revoked | .failed => false

/-- `_CANDIDATE_STATES`: what a reconciliation pass looks at. -/
def ProvisioningState.candidate : ProvisioningState → Bool
  | .active | .applying | .revoking => true
  | .requested | .revoked | .failed => false

/-- `_RUNNING_STUCK_STATES`: what agreement with the agent can settle. -/
def ProvisioningState.stuck : ProvisioningState → Bool
  | .applying | .revoking => true
  | .requested | .active | .revoked | .failed => false

def ProvisioningState.leaving : ProvisioningState → Bool
  | .revoking | .revoked => true
  | .requested | .applying | .active | .failed => false

@[simp] theorem leaving_iff {state : ProvisioningState} :
    state.leaving = true ↔ state = .revoking ∨ state = .revoked := by
  cases state <;> decide

theorem revocable_live {state : ProvisioningState} (revocable : state.revocable = true) :
    state.live = true := by
  cases state <;> simp_all [ProvisioningState.revocable, ProvisioningState.live]

theorem revocable_not_leaving {state : ProvisioningState} (revocable : state.revocable = true) :
    state.leaving = false := by
  cases state <;> simp_all [ProvisioningState.revocable, ProvisioningState.leaving]

inductive OperationKind where
  | provisionDevice
  | revokeDevice
  deriving DecidableEq

inductive TargetKind where
  | wireguardPeer
  | xrayClient
  deriving DecidableEq

inductive CredentialKind where
  | wireguardPublic
  | xrayBearer
  deriving DecidableEq

inductive IPVersion where
  | v4
  | v6
  deriving DecidableEq

def IPVersion.bits : IPVersion → Nat
  | .v4 => 32
  | .v6 => 128

structure IPAddress where
  version : IPVersion
  value : Nat
  deriving DecidableEq

structure IPNetwork where
  version : IPVersion
  base : Nat
  prefixLength : Nat
  deriving DecidableEq

variable (network : IPNetwork)

def IPNetwork.size : Nat :=
  2 ^ (network.version.bits - network.prefixLength)

def IPNetwork.contains (address : IPAddress) : Bool :=
  address.version == network.version && network.base ≤ address.value &&
    address.value < network.base + network.size

/-- IPv4 leaves out the network and broadcast addresses, IPv6 the subnet-router's; one or two
addresses are all kept. -/
def IPNetwork.firstHost : Nat :=
  if network.size ≤ 2 then network.base else network.base + 1

def IPNetwork.hostCount : Nat :=
  if network.size ≤ 2 then network.size
  else match network.version with
    | .v4 => network.size - 2
    | .v6 => network.size - 1

def firstFree (version : IPVersion) (excluded : List IPAddress) : Nat → Nat → Option IPAddress
  | _, 0 => none
  | value, count + 1 =>
    let candidate : IPAddress := ⟨version, value⟩
    if excluded.contains candidate then firstFree version excluded (value + 1) count
    else some candidate

def allocateNextAddress (pool : IPNetwork) (gatewayAddress : Option IPAddress)
    (excludedAddresses : List IPAddress) : Option IPAddress :=
  firstFree pool.version (gatewayAddress.toList ++ excludedAddresses) pool.firstHost
    pool.hostCount

/-- `publicKeyCanonical` and the all-zero check of `request_peer`: a nonzero
256-bit number. -/
def publicKeyAccepted (key : PublicKey) : Bool :=
  key < 2 ^ 256 && key != 0

end Nebula.Schema
