import Nebula.ControlPlane.AccountSteps
import Nebula.ControlPlane.CredentialSteps

/-!
# Cut off on the current allowance

The sweep measures an account in one transaction and marks it in another. In
between, recorded usage only grows, but a grant moves the allowance and its
baseline.
-/

namespace Nebula.Lifecycle

open Schema Store Runs ControlPlane List

def spent (tables : Tables) (userId : Uuid) : Bool :=
  ((tables.user userId).bind User.quotaExhaustedAt).isSome

/-- Whenever an account is marked spent, its allowance leaves nothing at that moment. -/
def CutOffsJustified (start : State) (events : List Event) : Prop :=
  ∀ earlier event later middle next userId,
    events = earlier ++ event :: later →
    runEvents step earlier start = some middle → step middle event = some next →
    spent middle.tables userId = false → spent next.tables userId = true →
    (usageForUser middle.tables userId).remainingBytes = some 0

def pendingVerdict (state : State) (userId : Uuid) : Bool :=
  state.tasks.any fun entry =>
    match entry.2 with
    | .cuttingOff _ measured _ => measured == userId
    | _ => false

def ownerPending (state : State) (deviceId : Uuid) : Bool :=
  (state.tables.owner deviceId).any (pendingVerdict state)

def grantedAccount (account before : AccountUsage) (quotaBytes : Option Nat) : AccountUsage :=
  { account with quotaBytes := quotaBytes, baselineBytes := before.lifetimeBytes }

/-- While a verdict is pending, no grant gives the account anything to use and nothing takes
recorded usage away from it. -/
def respectsVerdict (state : State) : Event → Bool
  | .grantCommit task =>
    match state.task task with
    | some (.granting userId quotaBytes before) =>
      !pendingVerdict state userId ||
        (grantedAccount (usageForUser state.tables userId) before quotaBytes).isExhausted
    | _ => true
  | .connectLookup task =>
    match state.task task with
    | some (.connectChecked connect) =>
      state.tables.rows.all fun row =>
        !(row.state == .active && row.kind == connect.kind &&
            row.deviceId == connect.deviceId && row.serverId == connect.server.id) ||
          (reconnectedRow connect row).identity == row.identity ||
          !ownerPending state row.deviceId
    | _ => true
  | .admin (.setReadable credentialId false) =>
    state.tables.rows.all fun row =>
      row.credentialId != credentialId || !ownerPending state row.deviceId
  | _ => true

def UsageGrows (before after : List CredentialUsage) : Prop :=
  ∃ write added, after = before.map write ++ added ∧
    ∀ usage : CredentialUsage, (write usage).identity = usage.identity ∧
      usage.rxBytes ≤ (write usage).rxBytes ∧ usage.txBytes ≤ (write usage).txBytes

section

variable (usage : List CredentialUsage)

theorem usageGrows_refl : UsageGrows usage usage :=
  ⟨id, [], by simp, fun _ => ⟨rfl, Nat.le_refl _, Nat.le_refl _⟩⟩

theorem usageGrows_trans {first : List CredentialUsage} {second third : List CredentialUsage}
    (earlier : UsageGrows first second) (later : UsageGrows second third) :
    UsageGrows first third := by
  obtain ⟨write, added, same, grows⟩ := earlier
  obtain ⟨write', added', same', grows'⟩ := later
  refine ⟨write' ∘ write, added.map write' ++ added', ?_, ?_⟩
  · rw [same', same, map_append, map_map, append_assoc]
  intro usage
  obtain ⟨identity, rx, tx⟩ := grows usage
  obtain ⟨identity', rx', tx'⟩ := grows' (write usage)
  exact ⟨identity'.trans identity, rx.trans rx', tx.trans tx'⟩

theorem usageGrows_updateWhere
    (selected : CredentialUsage → Bool) {write : CredentialUsage → CredentialUsage}
    (grows : ∀ usage, (write usage).identity = usage.identity ∧
      usage.rxBytes ≤ (write usage).rxBytes ∧ usage.txBytes ≤ (write usage).txBytes) :
    UsageGrows usage (updateWhere selected write usage) := by
  refine ⟨fun usage => if selected usage then write usage else usage, [], ?_, ?_⟩
  · simp [updateWhere]
  intro usage
  dsimp only
  split
  · exact grows usage
  · exact ⟨rfl, Nat.le_refl _, Nat.le_refl _⟩

theorem recordedUsage_grows {sample : UsageSample} (usage : CredentialUsage) :
    (recordedUsage sample usage).identity = usage.identity ∧
      usage.rxBytes ≤ (recordedUsage sample usage).rxBytes ∧
      usage.txBytes ≤ (recordedUsage sample usage).txBytes := by
  unfold recordedUsage
  split
  · exact ⟨rfl, Nat.le_refl _, Nat.le_refl _⟩
  · exact ⟨rfl, Nat.le_add_right _ _, Nat.le_add_right _ _⟩

theorem applySample_grows (sample : UsageSample) : UsageGrows usage (applySample usage sample) := by
  unfold applySample
  split
  · exact usageGrows_updateWhere usage _ recordedUsage_grows
  · refine usageGrows_trans ?_ (usageGrows_updateWhere _ _ recordedUsage_grows)
    exact ⟨id, _, by rw [map_id], fun _ => ⟨rfl, Nat.le_refl _, Nat.le_refl _⟩⟩

theorem applySamples_grow {samples : List UsageSample} (usage : List CredentialUsage) :
    UsageGrows usage (samples.foldl applySample usage) := by
  induction samples generalizing usage with
  | nil => exact usageGrows_refl usage
  | cons sample rest ih =>
    exact usageGrows_trans (applySample_grows usage sample) (ih (applySample usage sample))

end

/-! ## Recorded lifetime usage -/

section

variable {before after : Tables} {userId : Uuid}

theorem attributed_sum_le {value : CredentialUsage → Nat}
    (identities : ∀ usage ∈ before.usage, 0 < value usage →
      usage.identity ∈ digestsForDevices before (deviceIdsOf before userId) →
      usage.identity ∈ digestsForDevices after (deviceIdsOf after userId))
    {write : CredentialUsage → CredentialUsage} {added : List CredentialUsage}
    (usage : after.usage = before.usage.map write ++ added)
    (same : ∀ usage, (write usage).identity = usage.identity)
    (grows : ∀ usage, value usage ≤ value (write usage)) :
    ((attributed before userId).map value).sum ≤ ((attributed after userId).map value).sum := by
  unfold attributed
  rw [usage, filter_append, map_append, sum_append]
  refine Nat.le_trans ?_ (Nat.le_add_right _ _)
  apply sum_filter_map_le _ grows
  intro counter member worth counted
  simp only [contains_iff_mem] at counted ⊢
  rw [same]
  exact identities counter member worth counted

theorem exhausted_kept {user user' : User} (found : before.user userId = some user)
    (found' : after.user userId = some user')
    (quota : user'.trafficQuotaBytes = user.trafficQuotaBytes)
    (baseline : user'.trafficBaselineBytes = user.trafficBaselineBytes)
    (identities : ∀ identity ∈ digestsForDevices before (deviceIdsOf before userId),
      identity ∈ digestsForDevices after (deviceIdsOf after userId))
    (grows : UsageGrows before.usage after.usage)
    (exhausted : (usageForUser before userId).isExhausted = true) :
    (usageForUser after userId).isExhausted = true := by
  obtain ⟨write, added, usage, writes⟩ := grows
  have rx := attributed_sum_le
    (fun counter _ _ => identities counter.identity) usage
    (fun usage => (writes usage).1) (fun usage => (writes usage).2.1)
  have tx := attributed_sum_le
    (fun counter _ _ => identities counter.identity) usage
    (fun usage => (writes usage).1) (fun usage => (writes usage).2.2)
  simp only [usageForUser, found, found', AccountUsage.isExhausted, AccountUsage.totalBytes,
    AccountUsage.lifetimeBytes, quota, baseline] at exhausted ⊢
  cases metered : user.trafficQuotaBytes with
  | none => simp [metered] at exhausted
  | some limit =>
    simp only [metered, decide_eq_true_eq] at exhausted ⊢
    omega

theorem remainingBytes_of_exhausted {account : AccountUsage}
    (exhausted : account.isExhausted = true) : account.remainingBytes = some 0 := by
  unfold AccountUsage.isExhausted at exhausted
  unfold AccountUsage.remainingBytes
  cases metered : account.quotaBytes with
  | none => simp [metered] at exhausted
  | some limit =>
    simp only [metered, decide_eq_true_eq] at exhausted
    simp only [Option.map_some, Option.some.injEq]
    omega

end

structure Spares (state : State) (event : Event) (userId : Uuid) : Prop where
  grants : ∀ task quotaBytes before, event = .grantCommit task →
    state.task task = some (.granting userId quotaBytes before) →
    (grantedAccount (usageForUser state.tables userId) before quotaBytes).isExhausted = true
  keys : ∀ task connect row, event = .connectLookup task →
    state.task task = some (.connectChecked connect) → row ∈ state.tables.rows →
    row.state = .active → row.kind = connect.kind → row.deviceId = connect.deviceId →
    row.serverId = connect.server.id → row.deviceId ∈ deviceIdsOf state.tables userId →
    (reconnectedRow connect row).identity = row.identity
  secrets : ∀ credentialId, event = .admin (.setReadable credentialId false) →
    ∀ row ∈ state.tables.rows, row.deviceId ∈ deviceIdsOf state.tables userId →
    row.credentialId ≠ credentialId

section

variable {state : State} {next : State} {event : Event} {userId : Uuid}

theorem owner_of_mem_deviceIdsOf {deviceId : Uuid}
    (member : deviceId ∈ deviceIdsOf state.tables userId) :
    state.tables.owner deviceId = some userId := by
  obtain ⟨device, selected, named⟩ := mem_map.mp member
  obtain ⟨present, owned⟩ := mem_filter.mp selected
  have found := lookup_of_mem_nodup state.tables.devices state.database.consistent.deviceIds present
  rw [named] at found
  simp only [Tables.owner, Tables.device, found, Option.map_some]
  exact congrArg some (by simpa using owned)

theorem owner_mem_deviceIdsOf {tables : Tables} {deviceId userId : Uuid}
    (owned : tables.owner deviceId = some userId) : deviceId ∈ deviceIdsOf tables userId := by
  obtain ⟨device, found, owner⟩ := Option.map_eq_some_iff.mp owned
  obtain ⟨member, named⟩ := lookup_mem found
  exact mem_map.mpr ⟨device, mem_filter.mpr ⟨member, by simpa using owner⟩, named⟩

theorem ownerPending_of_mem (pending : pendingVerdict state userId = true) {deviceId : Uuid}
    (member : deviceId ∈ deviceIdsOf state.tables userId) :
    ownerPending state deviceId = true := by
  unfold ownerPending
  rw [owner_of_mem_deviceIdsOf member]
  exact pending

theorem spares_of_respects (pending : pendingVerdict state userId = true)
    (respects : respectsVerdict state event = true) : Spares state event userId where
  grants := by
    intro task quotaBytes before happened found
    subst happened
    simpa [respectsVerdict, found, pending] using respects
  keys := by
    intro task connect row happened found member active kind device server owned
    subst happened
    have held := ownerPending_of_mem pending owned
    simp only [respectsVerdict, found, all_eq_true] at respects
    have spared := respects row member
    rw [device] at held
    simpa [active, kind, device, server, held] using spared
  secrets := by
    intro credentialId happened row member owned
    subst happened
    have held := ownerPending_of_mem pending owned
    simp only [respectsVerdict, all_eq_true] at respects
    simpa [held] using respects row member

variable (state)

theorem spares_sweepMeasure {userId : Uuid} {task : TaskId} :
    Spares state (.sweepMeasure task) userId where
  grants := by
    intro _ _ _ happened
    cases happened
  keys := by
    intro _ _ _ happened
    cases happened
  secrets := by
    intro _ happened
    cases happened

variable {state}

theorem step_deviceIdsOf (taken : step state event = some next) {deviceId : Uuid}
    (member : deviceId ∈ deviceIdsOf state.tables userId) :
    deviceId ∈ deviceIdsOf next.tables userId := by
  have owned := owner_of_mem_deviceIdsOf member
  obtain ⟨device, found, _⟩ := Option.map_eq_some_iff.mp owned
  apply owner_mem_deviceIdsOf
  rw [step_owner taken found]
  exact owned

theorem step_readable (taken : step state event = some next) {row : Row}
    (opened : ∀ credentialId, event = .admin (.setReadable credentialId false) →
      row.credentialId ≠ credentialId)
    (readable : (state.tables.credential row.credentialId).any Credential.readable = true) :
    (next.tables.credential row.credentialId).any Credential.readable = true := by
  cases found : state.tables.credential row.credentialId with
  | none => simp [found] at readable
  | some credential =>
    rw [found] at readable
    cases written_credentials (step_written taken) with
    | kept kept =>
      obtain ⟨write, added, credentials, same⟩ := kept
      have mapped : lookup Credential.id row.credentialId
          (state.tables.credentials.map write) = some (write credential) := by
        rw [lookup_map fun credential _ => (same credential).id]
        unfold Tables.credential at found
        rw [found]
        rfl
      have looked : next.tables.credential row.credentialId = some (write credential) := by
        unfold Tables.credential
        rw [credentials]
        exact lookup_append_of_some _ mapped
      rw [looked, Option.any_some, (same credential).readable]
      exact readable
    | resealed credentialId opens happened written =>
      have looked : next.tables.credential row.credentialId =
          some (if credential.id == credentialId then
            { credential with readable := opens } else credential) := by
        rw [written]
        simp only [applyAdmin, Tables.writeCredential, Tables.credential, updateWhere]
        rw [lookup_map (by intro credential _; split <;> rfl)]
        unfold Tables.credential at found
        rw [found]
        rfl
      have named := (lookup_mem found).2
      rw [looked, Option.any_some]
      split
      · rename_i chosen
        have own : row.credentialId = credentialId := by
          rw [← named]
          simpa using chosen
        cases opens with
        | true => rfl
        | false => exact absurd own (opened credentialId happened)
      · exact readable

def attributes (tables : Tables) (userId : Uuid) (row : Row) : Bool :=
  (deviceIdsOf tables userId).contains row.deviceId &&
    match row.kind with
    | .wireguardPeer => true
    | .xrayClient => (tables.credential row.credentialId).any Credential.readable

theorem mem_digestsForDevices {userId : Uuid} {tables : Tables} {identity : Identity} :
    identity ∈ digestsForDevices tables (deviceIdsOf tables userId) ↔
      ∃ row ∈ tables.rows, attributes tables userId row = true ∧ row.identity = identity := by
  simp only [digestsForDevices, mem_map, mem_filter, and_assoc]
  rfl

variable (taken : step state event = some next)
include taken

theorem step_attributes {row : Row}
    (member : row ∈ state.tables.rows) (covered : attributes state.tables userId row = true)
    (keeps : ∀ task connect, event = .connectLookup task →
      state.task task = some (.connectChecked connect) → row.state = .active →
      row.kind = connect.kind → row.deviceId = connect.deviceId →
      row.serverId = connect.server.id →
      (reconnectedRow connect row).identity = row.identity)
    (opened : ∀ credentialId, event = .admin (.setReadable credentialId false) →
      row.credentialId ≠ credentialId) :
    row.identity ∈ digestsForDevices next.tables (deviceIdsOf next.tables userId) := by
  simp only [attributes, Bool.and_eq_true, contains_iff_mem] at covered
  obtain ⟨owned, readable⟩ := covered
  obtain ⟨change, added, rows, changes, _⟩ := step_rows taken
  have changed := changes row member
  refine mem_digestsForDevices.mpr ⟨change row, ?_, ?_, ?_⟩
  · rw [rows]
    exact mem_append_left _ (mem_map.mpr ⟨row, member, rfl⟩)
  · simp only [attributes, Bool.and_eq_true, contains_iff_mem]
    rw [changed.identity.deviceId, changed.identity.kind, changed.identity.credentialId]
    refine ⟨step_deviceIdsOf taken owned, ?_⟩
    split
    · rfl
    · rename_i kind
      rw [kind] at readable
      exact step_readable taken opened readable
  · generalize change row = new at changed ⊢
    cases changed with
    | kept => rfl
    | reconnected task connect _ happened found active device server kind =>
      exact keeps task connect happened found active kind device server
    | marked => rfl
    | recovered =>
      unfold recoveredRow
      split <;> rfl
    | finalized _ _ _ same => simp only [Row.identity, same.runtime]

theorem step_identities (spares : Spares state event userId) (identity : Identity)
    (known : identity ∈ digestsForDevices state.tables (deviceIdsOf state.tables userId)) :
    identity ∈ digestsForDevices next.tables (deviceIdsOf next.tables userId) := by
  obtain ⟨row, member, covered, named⟩ := mem_digestsForDevices.mp known
  have owned : row.deviceId ∈ deviceIdsOf state.tables userId := by
    simp only [attributes, Bool.and_eq_true, contains_iff_mem] at covered
    exact covered.1
  rw [← named]
  refine step_attributes taken member covered ?_ ?_
  · intro task connect happened found active kind device server
    exact spares.keys task connect row happened found member active kind device server owned
  · intro credentialId happened
    exact spares.secrets credentialId happened row member owned

theorem step_usageGrows :
    UsageGrows state.tables.usage next.tables.usage := by
  cases step_accounts taken with
  | kept frame =>
    rw [frame.usage]
    exact usageGrows_refl _
  | administered change _ written =>
    rw [written]
    cases change <;> exact usageGrows_refl _
  | statesWritten written =>
    rw [written.usage]
    exact usageGrows_refl _
  | recorded samples written =>
    rw [written]
    exact applySamples_grow state.tables.usage
  | forgotten gone collectedAt written =>
    rw [written]
    refine usageGrows_updateWhere _ _ fun usage => ?_
    unfold forgottenUsage
    split <;> exact ⟨rfl, Nat.le_refl _, Nat.le_refl _⟩
  | cutOff task sweep now target account _ _ written =>
    rw [written]
    rcases cutOffTables_cases state.tables with same | ⟨_, _, _, same⟩
    · rw [same]
      exact usageGrows_refl _
    · rw [same]
      exact usageGrows_refl _
  | granted task target quotaBytes before _ _ written =>
    rw [written]
    exact usageGrows_refl _

omit taken

/-- No counter row is lost and no total goes down. -/
theorem recorded_usage_kept (start : State) (events : List Event) :
    AlwaysAlong step (fun state => UsageGrows start.tables.usage state.tables.usage) events
      start := by
  refine alwaysAlong_of_invariant _ _ ?_ (fun _ grows => grows) (usageGrows_refl _)
    (runMeets_of_forall _ (fun _ _ => trivial) _ _)
  intro state event next grows _ taken
  exact usageGrows_trans grows (step_usageGrows taken)

theorem grantCommit_exhausted {quotaBytes : Option Nat} {before : AccountUsage} {user : User}
    (found : state.tables.user userId = some user)
    (exhausted : (grantedAccount (usageForUser state.tables userId) before
      quotaBytes).isExhausted = true) :
    (usageForUser (state.tables.writeUser userId (grantedUser quotaBytes before))
      userId).isExhausted = true := by
  have named := (lookup_mem found).2
  have written : (state.tables.writeUser userId (grantedUser quotaBytes before)).user userId =
      some (grantedUser quotaBytes before user) := by
    rw [user_writeUser state.tables (grantedUser quotaBytes before) fun _ => rfl, found]
    simp [named]
  simp only [usageForUser, found] at exhausted
  simp only [usageForUser, written]
  exact exhausted

theorem step_exhausted (taken : step state event = some next)
    (spares : Spares state event userId)
    (exhausted : (usageForUser state.tables userId).isExhausted = true) :
    (usageForUser next.tables userId).isExhausted = true := by
  cases found : state.tables.user userId with
  | none => simp [usageForUser, found, AccountUsage.isExhausted] at exhausted
  | some user =>
    have identities := step_identities taken spares
    have grows := step_usageGrows taken
    obtain ⟨changed, kept, change⟩ := step_user taken found
    cases change with
    | kept same =>
      exact exhausted_kept found kept same.quota same.baseline identities grows exhausted
    | cutOff task sweep now account _ _ _ written =>
      refine exhausted_kept found kept ?_ ?_ identities grows exhausted
      · rw [written]
      · rw [written]
    | granted task quotaBytes before happened running written =>
      have stillSpent := spares.grants task quotaBytes before happened running
      subst happened
      obtain ⟨planned, success, ended⟩ := step_cases taken
      simp only [plan, grantCommit, running] at success
      cases success
      rcases ended with committed | aborted
      · rw [committed.tables]
        exact grantCommit_exhausted found stillSpent
      · rw [aborted.tables]
        exact exhausted

theorem step_spent (taken : step state event = some next)
    (marked : spent next.tables userId = true) :
    spent state.tables userId = true ∨
      ∃ task sweep now account, event = .cutOff task now ∧
        state.task task = some (.cuttingOff sweep userId account) := by
  unfold spent at marked ⊢
  cases found : state.tables.user userId with
  | none =>
    cases added : next.tables.user userId with
    | none => simp [added] at marked
    | some user =>
      have unmarked := step_userAdded taken found added
      simp [added, unmarked] at marked
  | some user =>
    obtain ⟨changed, kept, change⟩ := step_user taken found
    rw [kept] at marked
    cases change with
    | kept same =>
      left
      simpa [same.exhausted] using marked
    | cutOff task sweep now account happened running _ _ =>
      exact Or.inr ⟨task, sweep, now, account, happened, running⟩
    | granted task quotaBytes before _ _ written => simp [written, grantedUser] at marked

end

def VerdictsHold (state : State) : Prop :=
  ∀ entry ∈ state.tasks, ∀ sweep userId account, entry.2 = .cuttingOff sweep userId account →
    (usageForUser state.tables userId).isExhausted = true

/-- While `respectsVerdict`, an account is only cut off when its allowance is used up. -/
theorem cut_offs_justified (start : State) (events : List Event) (idle : start.tasks = [])
    (meets : RunMeets step (respectsVerdict · ·) events start) :
    CutOffsJustified start events := by
  intro earlier event later middle next userId split run taken unmarked marked
  subst split
  obtain ⟨meetsEarlier, _⟩ := runMeets_append _ start middle run meets
  have holds : VerdictsHold middle := by
    refine runEvents_invariant VerdictsHold ?_ start ?_ meetsEarlier run
    · intro state event next holds respects taken entry member sweep userId account verdict
      rcases step_tasks taken member with ⟨old, _⟩ | start
      · have pending : pendingVerdict state userId = true :=
          any_eq_true.mpr ⟨entry, old, by simp [verdict]⟩
        exact step_exhausted taken
          (spares_of_respects pending respects)
          (holds entry old sweep userId account verdict)
      · obtain ⟨id, task⟩ := entry
        cases verdict
        cases start with
        | resumed received old _ _ found resumes => cases resumes
        | cuttingOff _ _ happened exhausted =>
          subst happened
          exact step_exhausted taken (spares_sweepMeasure state) exhausted
    · intro entry member
      rw [idle] at member
      cases member
  rcases step_spent taken marked with already | ⟨task, sweep, now, account, _, running⟩
  · rw [already] at unmarked
    cases unmarked
  · exact remainingBytes_of_exhausted (holds _ (task_mem running) sweep userId account rfl)

def grantThenSweep : List Event :=
  [.grantBegin 1 (some 0), .grantCommit 0, .sweepBegin, .sweepMeasure 1, .cutOff 1 20]

theorem cut_offs_justified_grantThenSweep :
    RunMeets step (respectsVerdict · ·) grantThenSweep smallStart ∧
      CutOffsJustified smallStart grantThenSweep :=
  ⟨by decide +kernel, cut_offs_justified smallStart grantThenSweep rfl (by decide +kernel)⟩

/-- Between the measurement and the cut-off an administrator grants 100 bytes. -/
def grantedAfterMeasuring : List Event :=
  [.grantBegin 1 (some 0), .grantCommit 0, .sweepBegin, .sweepMeasure 1,
    .grantBegin 1 (some 100), .grantCommit 2, .cutOff 1 20]

theorem cut_off_with_allowance_left : ¬ CutOffsJustified smallStart grantedAfterMeasuring := by
  intro justified
  obtain ⟨middle, final, run, before, lastRun, after⟩ :=
    runEvents_exists_between step 6 grantedAfterMeasuring smallStart
      (fun middle => spent middle.tables 1 = false ∧
        (usageForUser middle.tables 1).remainingBytes = some 100)
      (fun final => spent final.tables 1 = true) (by decide +kernel) (by decide +kernel)
  have last : step middle (.cutOff 1 20) = some final := by
    cases taken : step middle (.cutOff 1 20) with
    | none => simp [grantedAfterMeasuring, taken] at lastRun
    | some next => simpa [grantedAfterMeasuring, taken] using lastRun
  have remaining := justified (grantedAfterMeasuring.take 6) (.cutOff 1 20) [] middle final 1
    rfl run last before.1 after
  rw [before.2] at remaining
  cases remaining

end Nebula.Lifecycle
