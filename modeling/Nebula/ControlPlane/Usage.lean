import Nebula.ControlPlane.Revocation

/-!
# Traffic accounting and allowances

`usage/service.py`, `usage/enforcement.py` and `usage/quota.py`. The sweep and a
grant each measure the account in one transaction and act on the figure in a
later one.
-/

namespace Nebula.ControlPlane

open Schema Store

variable (account : AccountUsage)

def AccountUsage.lifetimeBytes : Nat :=
  account.rxBytes + account.txBytes

/-- Truncated subtraction is the `max(…, 0)`. -/
def AccountUsage.totalBytes : Nat :=
  account.lifetimeBytes - account.baselineBytes

def AccountUsage.remainingBytes : Option Nat :=
  account.quotaBytes.map fun quota => quota - account.totalBytes

def AccountUsage.isExhausted : Bool :=
  match account.quotaBytes with
  | none => false
  | some quota => quota ≤ account.totalBytes

/-- `_digests_for_devices`: a client whose credential no longer opens is left out. -/
def digestsForDevices (tables : Tables) (deviceIds : List Uuid) : List Identity :=
  (tables.rows.filter fun row =>
    deviceIds.contains row.deviceId &&
      match row.kind with
      | .wireguardPeer => true
      | .xrayClient => (tables.credential row.credentialId).any Credential.readable).map
    Row.identity

def attributed (tables : Tables) (userId : Uuid) : List CredentialUsage :=
  tables.usage.filter fun usage =>
    (digestsForDevices tables (deviceIdsOf tables userId)).contains usage.identity

def usageForUser (tables : Tables) (userId : Uuid) : AccountUsage :=
  match tables.user userId with
  | none => ⟨0, 0, none, 0, none⟩
  | some user =>
    { rxBytes := ((attributed tables userId).map CredentialUsage.rxBytes).sum
      txBytes := ((attributed tables userId).map CredentialUsage.txBytes).sum
      quotaBytes := user.trafficQuotaBytes
      baselineBytes := user.trafficBaselineBytes
      exhaustedAt := user.quotaExhaustedAt }

structure UsageSample where
  protocol : Protocol
  identity : Identity
  rxBytes : Nat
  txBytes : Nat
  collectedAt : Instant

/-- `_delta`: a reading below the last one is a counter that started again. -/
def readingDelta (reading lastReading : Nat) : Nat :=
  if lastReading ≤ reading then reading - lastReading else reading

def olderReading (collectedAt : Instant) (lastCollectedAt : Option Instant) : Bool :=
  lastCollectedAt.any fun last => collectedAt < last

def sameCounter (protocol : Protocol) (identity : Identity) (usage : CredentialUsage) : Bool :=
  usage.protocol == protocol && usage.identity == identity

def recordedUsage (sample : UsageSample) (usage : CredentialUsage) : CredentialUsage :=
  if olderReading sample.collectedAt usage.lastCollectedAt then usage
  else
    { usage with
      rxBytes := usage.rxBytes + readingDelta sample.rxBytes usage.lastRxReading
      txBytes := usage.txBytes + readingDelta sample.txBytes usage.lastTxReading
      lastRxReading := sample.rxBytes
      lastTxReading := sample.txBytes
      lastCollectedAt := some sample.collectedAt }

/-- `_apply`: insert an empty row unless there is one, then fold the sample into it. -/
def applySample (usage : List CredentialUsage) (sample : UsageSample) : List CredentialUsage :=
  let present :=
    if usage.any (sameCounter sample.protocol sample.identity) then usage
    else usage ++ [⟨sample.protocol, sample.identity, 0, 0, 0, 0, none⟩]
  updateWhere (sameCounter sample.protocol sample.identity) (recordedUsage sample) present

variable (state : State) (tables : Tables) (userId : Uuid)

def recordUsage (samples : List UsageSample) : Plan :=
  ⟨{ state.tables with usage := samples.foldl applySample state.tables.usage }, none, none, []⟩

def forgottenUsage (collectedAt : Instant) (usage : CredentialUsage) : CredentialUsage :=
  if olderReading collectedAt usage.lastCollectedAt then usage
  else
    { usage with
      lastRxReading := 0
      lastTxReading := 0
      lastCollectedAt := some collectedAt }

def forgetReadings (gone : List (Protocol × Identity)) (collectedAt : Instant) :
    Plan :=
  ⟨{ state.tables with
      usage := updateWhere
        (fun usage => gone.any fun counter => sameCounter counter.1 counter.2 usage)
        (forgottenUsage collectedAt) state.tables.usage },
    none, none, []⟩

def meteredUsers : List Uuid :=
  (tables.users.filter fun user =>
    user.trafficQuotaBytes.isSome && user.quotaExhaustedAt.isNone).map User.id

def sweepBegin : Plan :=
  ⟨state.tables, none, none, (meteredUsers state.tables).map (.sweeping state.nextTask)⟩

def Task.sweep : Task → Option TaskId
  | .sweeping sweep _ | .cuttingOff sweep _ _ => some sweep
  | _ => none

def State.firstOfSweep (id sweep : TaskId) : Bool :=
  (state.tasks.find? fun entry => entry.2.sweep == some sweep).any fun entry => entry.1 == id

/-- One step here; the code reads the account first, then its devices, credentials and counters. The
measurement counts from its first read: a grant between the reads comes after it. -/
def sweepMeasure (id : TaskId) : Option Plan :=
  match state.task id with
  | some (.sweeping sweep userId) =>
    if state.firstOfSweep id sweep then
      let account := usageForUser state.tables userId
      if account.isExhausted then
        some ⟨state.tables, some id, some (.cuttingOff sweep userId account), []⟩
      else some (endTask state.tables id)
    else none
  | _ => none

def markSpent (now : Instant) : Tables :=
  (revokeAccountCredentials userId now tables).writeUser userId fun user =>
    { user with quotaExhaustedAt := some now }

/-- `_cut_off`: the account is locked but not measured again. One step here; a row that a connect
inserts between the code's selection of the live rows and its commit is left out by the code. -/
def cutOffTables (now : Instant) : Tables :=
  match tables.user userId with
  | none => tables
  | some user =>
    match user.quotaExhaustedAt with
    | some _ => tables
    | none => markSpent tables userId now

def cutOff (id : TaskId) (now : Instant) : Option Plan :=
  match state.task id with
  | some (.cuttingOff _ userId _) => some (endTask (cutOffTables state.tables userId now) id)
  | _ => none

/-- `grant_traffic_quota` measures the account before it locks it. -/
def grantBegin (quotaBytes : Option Nat) : Plan :=
  ⟨state.tables, none, none, [.granting userId quotaBytes (usageForUser state.tables userId)]⟩

def grantedUser (quotaBytes : Option Nat) (before : AccountUsage) (user : User) : User :=
  { user with
    trafficQuotaBytes := quotaBytes
    trafficBaselineBytes := before.lifetimeBytes
    quotaExhaustedAt := none }

def grantCommit (id : TaskId) : Option Plan :=
  match state.task id with
  | some (.granting userId quotaBytes before) =>
    some (endTask (state.tables.writeUser userId (grantedUser quotaBytes before)) id)
  | _ => none

end Nebula.ControlPlane
