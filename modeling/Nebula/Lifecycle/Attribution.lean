import Nebula.Lifecycle.Allowance

/-!
# Usage an account cannot lose

What an account has used is not stored with it: it is summed over the keys its rows hold
at the moment. Counters never shrink and rows are never deleted, so bytes only get lost
with the last row that holds their key.
-/

namespace Nebula.Lifecycle

open Schema Runs ControlPlane

def lifetimeOf (state : State) (userId : Uuid) : Nat :=
  (usageForUser state.tables userId).lifetimeBytes

def LosesNoBytes (userId : Uuid) (before : State) (_ : Event) (after : State) : Prop :=
  lifetimeOf before userId ≤ lifetimeOf after userId
  deriving Decidable

def carriesBytes (tables : Tables) (identity : Identity) : Bool :=
  tables.usage.any fun usage =>
    usage.identity == identity && 0 < usage.rxBytes + usage.txBytes

def takesUp (connect : Connect) (row : Row) : Bool :=
  row.state == .active && row.kind == connect.kind && row.deviceId == connect.deviceId &&
    row.serverId == connect.server.id

/-- Another row of the account, one this connect does not take up, holds the key too. -/
def heldBesides (tables : Tables) (userId : Uuid) (connect : Connect) (row : Row) : Bool :=
  tables.rows.any fun other =>
    attributes tables userId other && other.identity == row.identity && !takesUp connect other

/-- A reconnect keeps a key with recorded bytes that no other row of the account holds; a credential
with recorded bytes stays readable. -/
def keepsCountedKeys (userId : Uuid) (state : State) : Event → Bool
  | .connectLookup task =>
    match state.task task with
    | some (.connectChecked connect) =>
      state.tables.rows.all fun row =>
        !(takesUp connect row && attributes state.tables userId row) ||
          (reconnectedRow connect row).identity == row.identity ||
          !carriesBytes state.tables row.identity ||
          heldBesides state.tables userId connect row
    | _ => true
  | .admin (.setReadable credentialId false) =>
    state.tables.rows.all fun row =>
      row.credentialId != credentialId || !attributes state.tables userId row ||
        !carriesBytes state.tables row.identity
  | _ => true

section

variable (state next : State) (event : Event) (userId : Uuid)

theorem takesUp_iff {connect : Connect} {row : Row} :
    takesUp connect row = true ↔ row.state = .active ∧ row.kind = connect.kind ∧
      row.deviceId = connect.deviceId ∧ row.serverId = connect.server.id := by
  simp [takesUp, and_assoc]

theorem step_countedIdentity (taken : step state event = some next)
    (keeps : keepsCountedKeys userId state event = true) {identity : Identity}
    (carries : carriesBytes state.tables identity = true)
    (known : identity ∈ digestsForDevices state.tables (deviceIdsOf state.tables userId)) :
    identity ∈ digestsForDevices next.tables (deviceIdsOf next.tables userId) := by
  obtain ⟨row, member, covered, named⟩ := mem_digestsForDevices.mp known
  subst named
  have opened : ∀ credentialId, event = .admin (.setReadable credentialId false) →
      row.credentialId ≠ credentialId := by
    intro credentialId happened
    subst happened
    simp only [keepsCountedKeys, List.all_eq_true] at keeps
    simpa [covered, carries] using keeps row member
  by_cases rekeyed : ∃ task connect, event = .connectLookup task ∧
      state.task task = some (.connectChecked connect) ∧ takesUp connect row = true ∧
      (reconnectedRow connect row).identity ≠ row.identity
  · -- The reconnect changes this row's key; the condition names a row it leaves alone.
    obtain ⟨task, connect, happened, found, taking, differs⟩ := rekeyed
    subst happened
    simp only [keepsCountedKeys, found, List.all_eq_true] at keeps
    have besides : heldBesides state.tables userId connect row = true := by
      simpa [taking, covered, differs, carries] using keeps row member
    obtain ⟨other, otherMember, holds⟩ := List.any_eq_true.mp besides
    simp only [Bool.and_eq_true, beq_iff_eq, Bool.not_eq_true'] at holds
    obtain ⟨⟨otherCovered, same⟩, spared⟩ := holds
    rw [← same]
    refine step_attributes taken otherMember otherCovered ?_ nofun
    intro otherTask otherConnect otherHappened otherFound active kind device server
    cases otherHappened
    rw [found] at otherFound
    cases otherFound
    have taken := takesUp_iff.mpr ⟨active, kind, device, server⟩
    rw [spared] at taken
    cases taken
  · refine step_attributes taken member covered ?_ opened
    intro task connect happened found active kind device server
    by_contra differs
    exact rekeyed ⟨task, connect, happened, found,
      takesUp_iff.mpr ⟨active, kind, device, server⟩, differs⟩

end

/-- If reconnects leave an account the keys it has used, no step takes recorded bytes away from it.
-/
theorem lifetime_never_decreases (userId : Uuid) (start : State) (events : List Event)
    (meets : RunMeets step (keepsCountedKeys userId · ·) events start) :
    EachStep step (LosesNoBytes userId) events start := by
  intro earlier event later middle next split run taken
  subst split
  obtain ⟨_, meetsLater⟩ := runMeets_append _ start middle run meets
  unfold LosesNoBytes lifetimeOf
  cases found : middle.tables.user userId with
  | none => simp [usageForUser, found, AccountUsage.lifetimeBytes]
  | some user =>
    obtain ⟨changed, kept, _⟩ := step_user taken found
    obtain ⟨write, added, usage, writes⟩ := step_usageGrows taken
    have identities : ∀ value : CredentialUsage → Nat,
        (∀ usage, value usage ≤ usage.rxBytes + usage.txBytes) →
        ∀ usage ∈ middle.tables.usage, 0 < value usage →
        usage.identity ∈ digestsForDevices middle.tables (deviceIdsOf middle.tables userId) →
        usage.identity ∈ digestsForDevices next.tables (deviceIdsOf next.tables userId) := by
      intro value part counter member worth
      apply step_countedIdentity middle next event userId taken meetsLater.1
      refine List.any_eq_true.mpr ⟨counter, member, ?_⟩
      simpa using Nat.lt_of_lt_of_le worth (part counter)
    have rx := attributed_sum_le
      (identities _ fun usage => Nat.le_add_right _ _) usage
      (fun usage => (writes usage).1) (fun usage => (writes usage).2.1)
    have tx := attributed_sum_le
      (identities _ fun usage => Nat.le_add_left _ _) usage
      (fun usage => (writes usage).1) (fun usage => (writes usage).2.2)
    simp only [usageForUser, found, kept, AccountUsage.lifetimeBytes]
    omega

def usedAndReconnected : List Event :=
  peerConnected ++ [.recordUsage [⟨.wireguard, .peer 7, 600, 300, 12⟩],
    .connectCheck ⟨1, 2, 30, 40, some 7⟩ true 13, .connectLookup 1]

theorem lifetime_never_decreases_usedAndReconnected :
    RunMeets step (keepsCountedKeys 1 · ·) usedAndReconnected smallStart ∧
      EachStep step (LosesNoBytes 1) usedAndReconnected smallStart :=
  ⟨by decide +kernel,
    lifetime_never_decreases 1 smallStart usedAndReconnected (by decide +kernel)⟩

def usedAndRekeyed : List Event :=
  peerConnected ++ [.recordUsage [⟨.wireguard, .peer 7, 600, 300, 12⟩],
    .connectCheck ⟨1, 2, 30, 40, some 8⟩ true 13]

theorem usage_lost_usedAndRekeyed :
    ¬ EachStep step (LosesNoBytes 1) (usedAndRekeyed ++ [.connectLookup 1]) smallStart :=
  not_eachStep step
    (by decide +kernel)

end Nebula.Lifecycle
