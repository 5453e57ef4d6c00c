import Nebula.ControlPlane.RowSteps

/-!
# What expiry takes away

The sweep asks for the account, the device and the grants of a credential in one query
(`access/expiry.py`); a connect reads them one after another and goes by the assignment it is
given. The two differ where that one does not grant and another does.
-/

namespace Nebula.Lifecycle

open Schema Store Runs ControlPlane List

variable (tables : Tables)

/-- What `_session_is_eligible` asks of the account; an active one has a password. -/
def requireAccount (userId : Uuid) (now : Instant) : Except Refusal Unit :=
  match tables.user userId with
  | some user =>
    if user.state = .active ∧ unexpired user.expiresAt now then .ok ()
    else .error .provisioningRejected
  | none => .error .provisioningRejected

def requireOthers (userId : Uuid) (row : Row) (now : Instant) :
    Except Refusal Unit := do
  requireAccount tables userId now
  let device ← requireDevice tables userId row.deviceId
  if device.state ≠ .active then throw .provisioningRejected
  requirePermission tables userId row.profileId now

/-- The last check is of the assignment that was `returned`. -/
def requireAccess (userId : Uuid) (row : Row) (returned : Option Assignment)
    (now : Instant) : Except Refusal Unit := do
  requireOthers tables userId row now
  requireGrant (assigned now) returned

/-- `_require_assignment` asks for the assignments of an account to a server in no order, and takes
one. -/
def Returnable (userId serverId : Uuid) (returned : Option Assignment) : Prop :=
  let found := tables.assignments.filter fun assignment =>
    assignment.userId == userId && assignment.serverId == serverId
  returned ∈ found.map some ∨ returned = none ∧ found = []
  deriving Decidable

def sweptAway (state : State) (now : Instant) (row : Row) : Bool :=
  (enforceAccessExpiry state now).tables.rows.any fun swept =>
    swept.id == row.id && swept.state == .revoking

/-- The sweep takes a live credential exactly when its account would be refused one. -/
def ExpiryMatchesConnect (state : State) (now : Instant) (row : Row) (userId : Uuid)
    (returned : Option Assignment) : Prop :=
  sweptAway state now row = !(requireAccess state.tables userId row returned now).isOk
  deriving Decidable

section

variable {tables : Tables} {userId : Uuid} {now : Instant}

theorem requireGrant_isOk {Grant : Type} {grants : Grant → Bool} {returned : Option Grant} :
    (requireGrant grants returned).isOk = returned.any grants := by
  unfold requireGrant
  cases returned.any grants <;> rfl

theorem requirePermission_isOk (consistent : tables.Consistent) (profileId : Uuid) :
    (requirePermission tables userId profileId now).isOk =
      hasPermission tables userId profileId now := by
  rw [requirePermission, requireGrant_isOk, hasPermission, Bool.eq_iff_iff, any_eq_true]
  cases found : tables.permissions.find? fun permission =>
      permission.userId == userId && permission.profileId == profileId with
  | none => simp_all
  | some permission =>
    have member := mem_of_find?_eq_some found
    have named := find?_some found
    simp only [Option.any_some, Bool.and_eq_true, beq_iff_eq] at named ⊢
    refine ⟨fun held => ⟨permission, member, named, held⟩, ?_⟩
    rintro ⟨other, present, same, held⟩
    rw [inj_on_of_nodup_map consistent.permissionPairs member present (by simp [named, same])]
    exact held

theorem hasAssignment_of_returned {serverId : Uuid} {returned : Option Assignment}
    (may : Returnable tables userId serverId returned)
    (grants : returned.any (assigned now) = true) :
    hasAssignment tables userId serverId now = true := by
  rcases may with among | ⟨rfl, _⟩
  · obtain ⟨assignment, found, rfl⟩ := mem_map.mp among
    obtain ⟨member, named⟩ := mem_filter.mp found
    exact any_eq_true.mpr ⟨assignment, member, Bool.and_eq_true_iff.mpr ⟨named, grants⟩⟩
  · cases grants

theorem requireAccess_isOk {row : Row} {returned : Option Assignment} :
    (requireAccess tables userId row returned now).isOk =
      ((requireOthers tables userId row now).isOk && returned.any (assigned now)) := by
  rw [requireAccess, ← requireGrant_isOk]
  cases requireOthers tables userId row now <;> rfl

end

section

variable (state : State) (now : Instant)

theorem sweptAway_eq_lapsed {row : Row} (member : row ∈ state.tables.rows)
    (live : row.state.revocable = true) :
    sweptAway state now row = lapsed state.tables now row := by
  unfold sweptAway enforceAccessExpiry markRevoking
  cases chosen : lapsed state.tables now row with
  | true =>
    rw [any_eq_true]
    exact ⟨revokingRow now row, mem_map.mpr ⟨row, member, by simp [chosen, live]⟩,
      by simp [revokingRow]⟩
  | false =>
    rw [any_eq_false]
    intro swept present named
    simp only [Bool.and_eq_true, beq_iff_eq] at named
    obtain ⟨old, among, ⟨marked, rfl⟩ | ⟨_, rfl⟩⟩ := mem_updateWhere _ _ present
    · have same := row_unique old row among member named.1
      simp [same, chosen] at marked
    · rw [row_unique swept row among member named.1] at named
      rw [named.2] at live
      cases live

theorem lapsed_eq {row : Row} {device : Device} (present : device ∈ state.tables.devices)
    (named : device.id = row.deviceId) {user : User} (known : user ∈ state.tables.users)
    (owner : user.id = device.userId) :
    lapsed state.tables now row = !((requireOthers state.tables user.id row now).isOk &&
      hasAssignment state.tables user.id row.serverId now) := by
  have consistent : state.tables.Consistent := state.database.consistent
  have found : state.tables.device device.id = some device :=
    lookup_of_mem_nodup _ consistent.deviceIds present
  have account : state.tables.user user.id = some user :=
    lookup_of_mem_nodup _ consistent.userIds known
  have own : requireDevice state.tables device.userId device.id = .ok device := by
    unfold requireDevice
    split
    · rename_i found
      have selected := find?_some found
      simp only [Bool.and_eq_true, beq_iff_eq] at selected
      rw [inj_on_of_nodup_map consistent.deviceIds
        (mem_of_find?_eq_some found) present selected.1]
    · rename_i absent
      exact absurd (find?_eq_none.mp absent device present) (by simp)
  rw [← owner] at own
  rw [lapsed, ← named, found]
  simp only [requireOthers, requireAccount, ← owner, account, ← named]
  rw [← requirePermission_isOk consistent]
  cases requirePermission state.tables user.id row.profileId now <;>
    cases held : device.state <;> cases user.state <;> cases unexpired user.expiresAt now <;>
    simp [own, held, bind, Except.bind, Except.isOk, Except.toBool, throw, throwThe,
      MonadExceptOf.throw]

/-- Unless everything else would be granted, some assignment grants too, and one that does not is
returned. -/
theorem expiry_takes_what_connect_refuses {row : Row} (member : row ∈ state.tables.rows)
    (live : row.state.revocable = true) {device : Device}
    (present : device ∈ state.tables.devices) (named : device.id = row.deviceId) {user : User}
    (known : user ∈ state.tables.users) (owner : user.id = device.userId)
    {returned : Option Assignment}
    (may : Returnable state.tables user.id row.serverId returned) :
    ExpiryMatchesConnect state now row user.id returned ↔
      ((requireOthers state.tables user.id row now).isOk = true →
        hasAssignment state.tables user.id row.serverId now = true →
          returned.any (assigned now) = true) := by
  have implied := @hasAssignment_of_returned _ _ now _ _ may
  rw [ExpiryMatchesConnect, sweptAway_eq_lapsed state now member live,
    lapsed_eq state now present named known owner, requireAccess_isOk]
  revert implied
  cases (requireOthers state.tables user.id row now).isOk <;>
    cases hasAssignment state.tables user.id row.serverId now <;>
    cases returned.any (assigned now) <;> simp

end

/-- The server is taken from the account and assigned to it anew, in a row of its own. -/
def assignedAgain : List Event :=
  peerConnected ++ [.admin (.setAssignment 1 3 .revoked none),
    .admin (.addAssignment ⟨1, 3, .active, none⟩)]

theorem expiry_takes_what_connect_refuses_newest :
    ∃ state, runEvents step assignedAgain smallStart = some state ∧
      ∃ row ∈ state.tables.rows, ∃ user ∈ state.tables.users,
        ExpiryMatchesConnect state 20 row user.id (some ⟨1, 3, .active, none⟩) := by
  obtain ⟨state, run, row, member, live, device, present, named, user, known, owner, may⟩ :=
    runEvents_exists step assignedAgain smallStart (fun state => ∃ row ∈ state.tables.rows,
      row.state.revocable = true ∧ ∃ device ∈ state.tables.devices, device.id = row.deviceId ∧
        ∃ user ∈ state.tables.users, user.id = device.userId ∧
          Returnable state.tables user.id row.serverId (some ⟨1, 3, .active, none⟩))
      (by decide +kernel)
  exact ⟨state, run, row, member, user, known, (expiry_takes_what_connect_refuses state 20 member
    live present named known owner may).mpr fun _ _ => rfl⟩

theorem expiry_misses_assignedAgain :
    ∃ state, runEvents step assignedAgain smallStart = some state ∧
      ∃ row ∈ state.tables.rows, row.state.revocable = true ∧
        Returnable state.tables 1 row.serverId (some ⟨1, 3, .revoked, none⟩) ∧
          ¬ ExpiryMatchesConnect state 20 row 1 (some ⟨1, 3, .revoked, none⟩) :=
  runEvents_exists step _ _ _ (by decide +kernel)

end Nebula.Lifecycle
