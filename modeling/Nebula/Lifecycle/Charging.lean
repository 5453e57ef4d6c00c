import Mathlib.Algebra.Order.BigOperators.Group.List
import Mathlib.Algebra.Order.Group.Nat
import Nebula.Lifecycle.Allowance

/-!
# Every byte on one bill

An account is charged what is recorded under any key one of its rows holds, live or
revoked. The unique index keeps a key apart only between live rows of one server, so two
accounts pay for the same bytes once a key passes from one to the other.
-/

namespace Nebula.Lifecycle

open Schema Store Runs ControlPlane List

def chargedBytes (tables : Tables) : Nat :=
  ((tables.users.map User.id).map fun userId =>
    (usageForUser tables userId).lifetimeBytes).sum

def usageBytes (usage : CredentialUsage) : Nat :=
  usage.rxBytes + usage.txBytes

def recordedBytes (tables : Tables) : Nat :=
  (tables.usage.map usageBytes).sum

variable (state : State)

def ChargedOnce : Prop :=
  chargedBytes state.tables ≤ recordedBytes state.tables
  deriving Decidable

def keyHeldElsewhere (tables : Tables) (connect : Connect) : Bool :=
  tables.rows.any fun row =>
    connect.publicKey.any (fun publicKey => row.identity == .peer publicKey) &&
      tables.owner row.deviceId != tables.owner connect.deviceId

/-- A connect that stores a key brings one that no row of another account holds. -/
def bringsOwnKey : Event → Bool
  | .connectLookup task | .connectCommit task =>
    (state.task task).all fun work =>
      work.connect.all fun connect => !keyHeldElsewhere state.tables connect
  | _ => true

structure KeysApart : Prop where
  owners : ∀ row ∈ state.tables.rows, ∀ other ∈ state.tables.rows,
    row.identity = other.identity →
    state.tables.owner row.deviceId = state.tables.owner other.deviceId
  drawn : ∀ row ∈ state.tables.rows, ∀ clientUuid, row.identity = .client clientUuid →
    clientUuid < state.nextUuid

inductive KeyOrigin (event : Event) (row : Row) : Prop
  | held (old : Row) (member : old ∈ state.tables.rows) (identity : row.identity = old.identity)
    (device : row.deviceId = old.deviceId)
  | brought (task : TaskId) (work : Task) (connect : Connect) (publicKey : PublicKey)
    (happened : event = .connectLookup task ∨ event = .connectCommit task)
    (found : state.task task = some work) (connects : work.connect = some connect)
    (key : connect.publicKey = some publicKey) (identity : row.identity = .peer publicKey)
    (device : row.deviceId = connect.deviceId)
  | drawn (task : TaskId) (connect : Connect) (address : Option IPAddress)
    (happened : event = .connectCommit task)
    (found : state.task task = some (.connectAllocated connect address))
    (identity : row.identity = .client (state.nextUuid + 4))
    (device : row.deviceId = connect.deviceId)

section

variable {state next : State} {event : Event}

theorem rowChange_origin {old new : Row} (member : old ∈ state.tables.rows)
    (change : RowChange state event old new) : KeyOrigin state event new := by
  have device := change.identity.deviceId
  cases change with
  | reconnected task connect _ happened found active sameDevice =>
    unfold reconnectedRow
    split
    · rename_i publicKey _ address key runtime
      exact .brought task _ connect publicKey (Or.inl happened) found rfl key rfl sameDevice
    · exact .held old member rfl rfl
  | recovered _ now _ observed =>
    refine .held old member ?_ device
    simp only [Row.identity, (recoveredRow_same observed now old).runtime]
  | finalized _ _ _ same =>
    refine .held old member ?_ device
    simp only [Row.identity, same.runtime]
  | _ => exact .held old member rfl device

variable (taken : step state event = some next)
include taken

theorem step_origin {row : Row}
    (member : row ∈ next.tables.rows) : KeyOrigin state event row := by
  obtain ⟨change, added, rows, changes, inserted, _⟩ := step_rows taken
  rw [rows] at member
  rcases mem_append.mp member with kept | new
  · obtain ⟨old, oldMember, same⟩ := mem_map.mp kept
    have changed := changes old oldMember
    rw [same] at changed
    exact rowChange_origin oldMember changed
  · obtain ⟨task, connect, address, runtime, happened, found, created, inserted⟩ := (inserted row
      new)
    subst inserted
    unfold newRuntime at created
    split at created
    · rename_i publicKey _ key
      cases created
      exact .brought task _ connect publicKey (Or.inr happened) found rfl key rfl rfl
    · cases created
      exact .drawn task connect _ happened found rfl rfl
    · cases created

theorem step_rowOwner {row : Row}
    (member : row ∈ state.tables.rows) :
    next.tables.owner row.deviceId = state.tables.owner row.deviceId := by
  obtain ⟨device, present, named⟩ := state.database.consistent.rowDevices row member
  have found := lookup_of_mem_nodup state.tables.devices state.database.consistent.deviceIds present
  rw [named] at found
  exact step_owner taken found

theorem brought_owner (own : bringsOwnKey state event = true)
    {old : Row} (member : old ∈ state.tables.rows) {task : TaskId} {work : Task} {connect : Connect}
    {publicKey : PublicKey} (happened : event = .connectLookup task ∨ event = .connectCommit task)
    (found : state.task task = some work) (connects : work.connect = some connect)
    (key : connect.publicKey = some publicKey) (identity : old.identity = .peer publicKey) :
    next.tables.owner old.deviceId = next.tables.owner connect.deviceId := by
  have free : keyHeldElsewhere state.tables connect = false := by
    rcases happened with happened | happened <;> subst happened <;>
      simpa [bringsOwnKey, found, connects] using own
  have same : state.tables.owner old.deviceId = state.tables.owner connect.deviceId := by
    simp only [keyHeldElsewhere, any_eq_false] at free
    simpa [key, identity] using free old member
  obtain ⟨device, present, named⟩ := state.database.consistent.rowDevices old member
  have looked := lookup_of_mem_nodup state.tables.devices
    state.database.consistent.deviceIds present
  rw [named] at looked
  have owned : state.tables.owner connect.deviceId = some device.userId := by
    rw [← same]
    simp only [Tables.owner, Tables.device, looked, Option.map_some]
  obtain ⟨connecting, connectingFound, _⟩ := Option.map_eq_some_iff.mp owned
  rw [step_rowOwner taken member, same, step_owner taken connectingFound]

omit taken

theorem same_connect {event : Event} {task other : TaskId} {work otherWork : Task}
    {connect otherConnect : Connect}
    (happened : event = .connectLookup task ∨ event = .connectCommit task)
    (otherHappened : event = .connectLookup other ∨ event = .connectCommit other)
    (found : state.task task = some work) (otherFound : state.task other = some otherWork)
    (connects : work.connect = some connect)
    (otherConnects : otherWork.connect = some otherConnect) : connect = otherConnect := by
  have one : task = other := by
    rcases happened with happened | happened <;>
      simp_all
  subst one
  rw [found] at otherFound
  cases otherFound
  rw [connects] at otherConnects
  exact Option.some.inj otherConnects

theorem step_keysApart (taken : step state event = some next) (apart : KeysApart state)
    (own : bringsOwnKey state event = true) : KeysApart next where
  owners := by
    intro row member other otherMember same
    cases (step_origin taken member) with
    | held old member identity device =>
      rw [device]
      cases (step_origin taken otherMember) with
      | held otherOld otherMember otherIdentity otherDevice =>
        rw [otherDevice, step_rowOwner taken member, step_rowOwner taken otherMember]
        exact apart.owners old member otherOld otherMember
          (identity.symm.trans (same.trans otherIdentity))
      | brought task work connect publicKey happened found connects key otherIdentity otherDevice =>
        rw [otherDevice]
        exact brought_owner taken own member
          happened found connects key (identity.symm.trans (same.trans otherIdentity))
      | drawn _ _ _ _ _ otherIdentity _ =>
        have known := apart.drawn old member _ (identity.symm.trans (same.trans otherIdentity))
        exact absurd known (Nat.not_lt.mpr (Nat.le_add_right _ _))
    | brought task work connect publicKey happened found connects key identity device =>
      rw [device]
      cases (step_origin taken otherMember) with
      | held otherOld otherMember otherIdentity otherDevice =>
        rw [otherDevice]
        exact (brought_owner taken own otherMember happened found connects key
          (otherIdentity.symm.trans (same.symm.trans identity))).symm
      | brought otherTask otherWork otherConnect _ otherHappened otherFound otherConnects _ _
          otherDevice =>
          rw [otherDevice,
            same_connect happened otherHappened found otherFound connects otherConnects]
      | drawn _ _ _ _ _ otherIdentity _ =>
        rw [identity, otherIdentity] at same
        cases same
    | drawn task connect address happened found identity device =>
      rw [device]
      cases (step_origin taken otherMember) with
      | held otherOld otherMember otherIdentity _ =>
        have known := apart.drawn otherOld otherMember _
          (otherIdentity.symm.trans (same.symm.trans identity))
        exact absurd known (Nat.not_lt.mpr (Nat.le_add_right _ _))
      | brought _ _ _ _ _ _ _ _ otherIdentity _ =>
        rw [identity, otherIdentity] at same
        cases same
      | drawn otherTask otherConnect otherAddress otherHappened otherFound _ otherDevice =>
        rw [otherDevice, same_connect
          (Or.inr happened) (Or.inr otherHappened) found otherFound rfl rfl]
  drawn := by
    intro row member clientUuid named
    rw [step_nextUuid state taken]
    cases step_origin taken member with
    | held old oldMember identity _ =>
      exact Nat.lt_add_right _ (apart.drawn old oldMember clientUuid (identity.symm.trans named))
    | brought _ _ _ _ _ _ _ _ identity _ =>
      rw [identity] at named
      cases named
    | drawn _ _ _ _ _ identity _ =>
      rw [identity] at named
      cases named
      exact Nat.add_lt_add_left (by decide) _

end

section

variable {state : State}

theorem attributes_owner {userId : Uuid} {row : Row}
    (covered : attributes state.tables userId row = true) :
    state.tables.owner row.deviceId = some userId := by
  simp only [attributes, Bool.and_eq_true, contains_iff_mem] at covered
  exact owner_of_mem_deviceIdsOf covered.1

theorem lifetimeBytes_le {tables : Tables} {userId : Uuid} :
    (usageForUser tables userId).lifetimeBytes ≤
      ((attributed tables userId).map usageBytes).sum := by
  unfold usageForUser
  split
  · exact Nat.zero_le _
  simp only [AccountUsage.lifetimeBytes]
  have parted : (attributed tables userId).map usageBytes =
      (attributed tables userId).map fun usage => usage.rxBytes + usage.txBytes := rfl
  rw [parted, sum_map_add]

theorem charged_le_recorded (apart : KeysApart state) : ChargedOnce state := by
  refine Nat.le_trans (sum_le_sum fun userId _ => lifetimeBytes_le) ?_
  refine sum_charged_le state.database.consistent.userIds ?_
  intro usage _ one _ other _ chargedOne chargedOther
  simp only [contains_iff_mem] at chargedOne chargedOther
  obtain ⟨row, member, covered, named⟩ := mem_digestsForDevices.mp chargedOne
  obtain ⟨otherRow, otherMember, otherCovered, otherNamed⟩ := mem_digestsForDevices.mp chargedOther
  have same := apart.owners row member otherRow otherMember (named.trans otherNamed.symm)
  rw [attributes_owner covered, attributes_owner otherCovered] at same
  exact Option.some.inj same

end

/-- While `bringsOwnKey`, the accounts are charged no more than is recorded. -/
theorem bytes_charged_once (start : State) (events : List Event) (apart : KeysApart start)
    (meets : RunMeets step (bringsOwnKey · ·) events start) :
    AlwaysAlong step ChargedOnce events start :=
  alwaysAlong_of_invariant KeysApart ChargedOnce
    (fun _ _ _ apart own taken => step_keysApart taken apart own)
    (fun _ apart => charged_le_recorded apart) apart meets

def twoAccountTables : Tables :=
  { smallTables with
    users := [⟨1, .active, none, none, 0, none⟩, ⟨6, .active, none, none, 0, none⟩]
    devices := [⟨2, 1, .active⟩, ⟨7, 6, .active⟩]
    permissions := [⟨1, 4, .enabled, none⟩, ⟨6, 4, .enabled, none⟩]
    assignments := [⟨1, 3, .active, none⟩, ⟨6, 3, .active, none⟩] }

def twoAccountStart : State :=
  startOf twoAccountTables (by decide)

/-- The first account is counted at 900 bytes under key 9; the second then connects with the given
key. -/
def connectedInTurn (publicKey : PublicKey) : List Event :=
  [.connectCheck ⟨1, 2, 30, 40, some 9⟩ true 10, .connectLookup 0, .connectCommit 0,
    .answer 0 (.applied 1), .finalize 0 11,
    .recordUsage [⟨.wireguard, .peer 9, 600, 300, 12⟩],
    .disconnect ⟨1, 2, 30, none⟩ true 13, .answer 1 (.applied 2), .finalize 1 14,
    .connectCheck ⟨6, 7, 30, 40, some publicKey⟩ true 15, .connectLookup 2, .connectCommit 2]

theorem bytes_charged_once_connectedInTurn :
    RunMeets step (bringsOwnKey · ·) (connectedInTurn 8)
        twoAccountStart ∧
      AlwaysAlong step ChargedOnce (connectedInTurn 8) twoAccountStart :=
  ⟨by decide +kernel,
    bytes_charged_once twoAccountStart (connectedInTurn 8)
      ⟨forall_mem_nil _, forall_mem_nil _⟩ (by decide +kernel)⟩

theorem bytes_charged_twice_samePhone :
    ¬ AlwaysAlong step ChargedOnce (connectedInTurn 9) twoAccountStart :=
  not_alwaysAlong ChargedOnce (connectedInTurn 9) twoAccountStart (by decide +kernel)

end Nebula.Lifecycle
