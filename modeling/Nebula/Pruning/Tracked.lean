import Nebula.Pruning.Lock

/-!
# What a prune takes away

The set a prune sends is what the rows said when it read them.
-/

namespace Nebula.Pruning

open Schema Store Runs ControlPlane Agent Fleet List

def clientUuidOf (row : Row) : Option Uuid :=
  match row.runtime with
  | .xrayClient clientUuid => some clientUuid
  | .wireguardPeer _ _ => none

def PassPhase.snapshot : PassPhase → Option (Uuid × List Uuid)
  | .decrypting serverId rows expected =>
    some (serverId,
      expected.map Prod.fst ++ rows.filterMap fun entry => clientUuidOf entry.1)
  | .choosing | .waiting _ => none

def PruneCall.snapshot (call : PruneCall) : Uuid × List Uuid :=
  (call.serverId, call.keep)

/-- Prunes between their read and the end of their job, with server and survivors. -/
def PruningWorld.prunes (world : PruningWorld) : List (Uuid × List Uuid) :=
  world.passes.filterMap (fun entry => entry.2.phase.snapshot) ++
    (world.calls ++ world.jobs.map PruneJob.call).map PruneCall.snapshot

def readClients (tables : Tables) (serverId : Uuid) : List Uuid :=
  (pruneRows tables serverId).filterMap fun entry => clientUuidOf entry.1

section

variable (world next : PruningWorld)

variable {prune : Uuid × List Uuid}

theorem mem_prunes :
    prune ∈ world.prunes ↔
      (∃ entry ∈ world.passes, entry.2.phase.snapshot = some prune) ∨
      (∃ call ∈ world.calls, call.snapshot = prune) ∨
      ∃ job ∈ world.jobs, job.call.snapshot = prune := by
  simp only [PruningWorld.prunes, mem_append, mem_filterMap, mem_map, or_and_right,
    exists_or, exists_exists_and_eq_and]

def Follows (prune : Uuid × List Uuid) : Prop :=
  ∃ old ∈ world.prunes, old.1 = prune.1 ∧ ∀ clientUuid ∈ old.2, clientUuid ∈ prune.2

def Continues : Prop :=
  ∀ prune ∈ next.prunes, Follows world prune ∨
    next.fleet = world.fleet ∧ prune.2 = readClients world.fleet.plane.tables prune.1

variable {world}

theorem follows_of_mem (member : prune ∈ world.prunes) :
    Follows world prune :=
  ⟨prune, member, rfl, fun _ => id⟩

theorem continues_of_subset (subset : ∀ prune ∈ next.prunes, prune ∈ world.prunes) :
    Continues world next := by
  intro prune member
  exact Or.inl (follows_of_mem (subset prune member))

theorem continues_of_lists (passes : ∀ entry ∈ next.passes, entry ∈ world.passes)
    (calls : ∀ call ∈ next.calls, call ∈ world.calls)
    (jobs : ∀ job ∈ next.jobs, job.call ∈ world.calls ∨
      ∃ old ∈ world.jobs, job.call = old.call) : Continues world next := by
  refine continues_of_subset next ?_
  intro prune member
  rw [mem_prunes] at member ⊢
  rcases member with ⟨entry, present, same⟩ | ⟨call, present, same⟩ | ⟨job, present, same⟩
  · exact Or.inl ⟨entry, passes entry present, same⟩
  · exact Or.inr (Or.inl ⟨call, calls call present, same⟩)
  · rcases jobs job present with sent | ⟨old, oldMember, sameCall⟩
    · exact Or.inr (Or.inl ⟨job.call, sent, same⟩)
    · exact Or.inr (Or.inr ⟨old, oldMember, sameCall ▸ same⟩)

variable (id : Nat)

variable {pass : PrunePass}

theorem pass_mem (found : world.pass id = some pass) :
    (id, pass) ∈ world.passes := by
  obtain ⟨entry, looked, second⟩ := Option.map_eq_some_iff.mp found
  obtain ⟨member, first⟩ := lookup_mem looked
  rw [← first, ← second]
  exact member

theorem mem_setPass {id : Nat} {entry : Nat × PrunePass}
    (member : entry ∈ (world.setPass id pass).passes) :
    entry ∈ world.passes ∨ entry = (id, pass) := by
  obtain ⟨old, oldMember, same⟩ := mem_map.mp member
  split at same
  · exact Or.inr same.symm
  · subst same
    exact Or.inl oldMember

theorem setPass_prunes {id : Nat}     (member : prune ∈ (world.setPass id pass).prunes) :
    prune ∈ world.prunes ∨ pass.phase.snapshot = some prune := by
  rw [mem_prunes] at member ⊢
  rcases member with ⟨entry, present, same⟩ | other
  · rcases mem_setPass present with old | new
    · exact Or.inl (Or.inl ⟨entry, old, same⟩)
    · subst new
      exact Or.inr same
  · exact Or.inl (Or.inr other)

variable (world)

theorem setPass_continues (idle : pass.phase.snapshot = none) :
    Continues world (world.setPass id pass) := by
  refine continues_of_subset _ ?_
  intro prune member
  rcases setPass_prunes member with old | new
  · exact old
  · rw [idle] at new
    cases new

theorem read_continues (read : world.read id = some next) : Continues world next := by
  unfold PruningWorld.read at read
  split at read
  · rename_i serverId rest summary found
    cases read
    intro prune member
    rcases setPass_prunes member with old | new
    · exact Or.inl (follows_of_mem old)
    · cases new
      exact Or.inr ⟨rfl, rfl⟩
  · cases read

theorem clientUuidOf_decrypted {tables : Tables} {row : Row} {clientUuid : Uuid}
    (decrypted : decryptClientUuid tables row = some clientUuid) :
    clientUuidOf row = some clientUuid := by
  unfold decryptClientUuid at decrypted
  split at decrypted
  · rename_i own runtime
    split at decrypted
    · cases decrypted
      simp [clientUuidOf, runtime]
    · cases decrypted
  · cases decrypted

theorem decrypt_continues (decrypts : world.decrypt id = some next) : Continues world next := by
  unfold PruningWorld.decrypt at decrypts
  split at decrypts
  · rename_i servers serverId row code rest expected summary found
    have before := pass_mem id found
    split at decrypts
    swap
    · cases decrypts
      exact setPass_continues world id rfl
    rename_i clientUuid decrypted
    cases decrypts
    intro prune member
    rcases setPass_prunes member with old | new
    · exact Or.inl (follows_of_mem old)
    cases new
    refine Or.inl ⟨_, (mem_prunes world).mpr (Or.inl ⟨_, before, rfl⟩), rfl, ?_⟩
    intro other listed
    simpa [clientUuidOf_decrypted decrypted] using listed
  · rename_i servers serverId expected summary found
    have before := pass_mem id found
    cases decrypts
    intro prune member
    rw [mem_prunes] at member
    rcases member with ofPass | ⟨call, present, same⟩ | ofJob
    · rcases setPass_prunes ((mem_prunes _).mpr (Or.inl ofPass)) with old | new
      · exact Or.inl (follows_of_mem old)
      · cases new
    · rcases mem_append.mp present with sent | new
      · exact Or.inl (follows_of_mem ((mem_prunes world).mpr (Or.inr (Or.inl ⟨call, sent, same⟩))))
      rw [mem_singleton.mp new] at same
      subst same
      refine Or.inl ⟨_, (mem_prunes world).mpr (Or.inl ⟨_, before, rfl⟩), rfl, ?_⟩
      intro other listed
      simpa [PruneCall.snapshot, PruneCall.keep] using listed
    · exact Or.inl (follows_of_mem ((mem_prunes world).mpr (Or.inr (Or.inr ofJob))))
  · cases decrypts

theorem abandon_continues (abandoned : world.abandon id = some next) : Continues world next := by
  unfold PruningWorld.abandon at abandoned
  split at abandoned
  · cases abandoned
  · cases abandoned
  · cases abandoned
    exact setPass_continues world id rfl

theorem receive_continues (reply : PruneReply) (received : world.receive reply = some next) :
    Continues world next := by
  unfold PruningWorld.receive at received
  split at received
  · split at received
    · cases received
      exact setPass_continues world reply.call.pass rfl
    · cases received
  · cases received

theorem drive_continues {job : PruneJob} {event : XrayEvent} {readable : Bool}
    (member : job ∈ world.jobs) (driven : world.drive job event readable = some next) :
    Continues world next := by
  obtain ⟨_, driven⟩ := Option.ite_none_left_eq_some.mp driven
  split at driven
  · cases driven
  · rename_i phase _
    cases driven
    refine continues_of_lists _ (fun _ => id) (fun _ => id) ?_
    intro other present
    obtain ⟨old, oldMember, same⟩ := mem_map.mp present
    split at same
    · subst same
      exact Or.inr ⟨job, member, rfl⟩
    · subst same
      exact Or.inr ⟨old, oldMember, rfl⟩
  · cases driven
    refine continues_of_lists _ (fun _ => id) (fun _ => id) ?_
    intro other present
    exact Or.inr ⟨other, (mem_filter.mp present).1, rfl⟩

theorem step_continues {event : PruningEvent} (taken : world.step event = some next) :
    Continues world next := by
  have sameCalls : ∀ job ∈ world.jobs, job.call ∈ world.calls ∨
      ∃ old ∈ world.jobs, job.call = old.call := fun job present => Or.inr ⟨job, present, rfl⟩
  cases event with
  | fleet fleetEvent =>
    simp only [PruningWorld.step, PruningWorld.stepFleet] at taken
    split at taken
    · cases taken
    obtain ⟨fleet, _, written⟩ := Option.map_eq_some_iff.mp taken
    subst written
    refine continues_of_lists _ (fun _ => id) (fun _ => id) ?_
    intro job present
    exact sameCalls job (mem_filter.mp present).1
  | begin =>
    cases taken
    refine continues_of_subset _ ?_
    intro prune member
    rw [mem_prunes] at member ⊢
    rcases member with ⟨entry, present, same⟩ | other
    · rcases mem_append.mp present with old | new
      · exact Or.inl ⟨entry, old, same⟩
      · rw [mem_singleton.mp new] at same
        cases same
    · exact Or.inr other
  | read pass => exact read_continues world next pass taken
  | decrypt pass => exact decrypt_continues world next pass taken
  | abandon pass => exact abandon_continues world next pass taken
  | stop pass =>
    cases taken
    exact continues_of_lists _ (fun _ kept => (mem_filter.mp kept).1) (fun _ => id) sameCalls
  | lose pass serverId =>
    obtain ⟨call, _, written⟩ := Option.map_eq_some_iff.mp taken
    subst written
    exact continues_of_lists _ (fun _ => id) (fun _ => mem_of_mem_erase) sameCalls
  | deliver pass serverId admitted =>
    obtain ⟨call, found, written⟩ := Option.map_eq_some_iff.mp taken
    subst written
    unfold PruningWorld.deliver
    split
    · refine continues_of_lists _ (fun _ => id) (fun _ => mem_of_mem_erase) ?_
      intro job present
      rcases mem_append.mp present with old | new
      · exact sameCalls job old
      · rw [mem_singleton.mp new]
        exact Or.inl (mem_of_find?_eq_some found)
    · exact continues_of_lists _ (fun _ => id) (fun _ => mem_of_mem_erase) sameCalls
  | drive pass serverId xrayEvent readable =>
    obtain ⟨job, found, driven⟩ := Option.bind_eq_some_iff.mp taken
    exact drive_continues world next (mem_of_find?_eq_some found) driven
  | receive pass serverId =>
    obtain ⟨reply, _, received⟩ := Option.bind_eq_some_iff.mp taken
    exact receive_continues world next reply received
  | loseReply pass serverId =>
    obtain ⟨reply, _, written⟩ := Option.map_eq_some_iff.mp taken
    subst written
    exact continues_of_lists _ (fun _ => id) (fun _ => id) sameCalls

end

/-! ## Rows that come to life -/

def connectsClient (state : State) (serverId : Uuid) : Event → Bool
  | .connectCommit task =>
    (state.task task).any fun held => held.allocating.any fun connect =>
      connect.kind == .xrayClient && connect.server.id == serverId
  | _ => false

def revives (state : State) (event : Event) (row : Row) : Bool :=
  !row.live && (finalizes state event).any fun written => written.1 == row.id && written.2.live

def bringsToLife (state : State) (serverId : Uuid) (event : Event) : Bool :=
  connectsClient state serverId event ||
    state.tables.rows.any fun row =>
      row.kind == .xrayClient && row.serverId == serverId && revives state event row

structure LiveClient (tables : Tables) (serverId clientUuid : Uuid) (row : Row) : Prop where
  member : row ∈ tables.rows
  server : row.serverId = serverId
  live : row.live = true
  runtime : row.runtime = .xrayClient clientUuid

section

variable (state next : State) {serverId : Uuid}

theorem rowChange_runtime {event : Event} {old new : Row} {clientUuid : Uuid}
    (change : RowChange state event old new) (runtime : new.runtime = .xrayClient clientUuid) :
    old.runtime = .xrayClient clientUuid := by
  cases change with
  | kept => exact runtime
  | reconnected =>
    unfold reconnectedRow at runtime
    split at runtime
    · cases runtime
    · exact runtime
  | marked => exact runtime
  | recovered =>
    rw [← (recoveredRow_same _ _ _).runtime]
    exact runtime
  | finalized _ _ _ same =>
    rw [← same.runtime]
    exact runtime

theorem rowChange_live (event : Event) (old new : Row) (change : RowChange state event old new)
    (live : new.live = true) (unrevived : revives state event old = false) : old.live = true := by
  rcases change.was_live live with before | written
  · exact before
  by_contra dead
  have brings : revives state event old = true := by
    simp only [revives, written, Option.any_some, beq_self_eq_true, Bool.true_and,
      Bool.and_eq_true, Bool.not_eq_true']
    exact ⟨by simpa using dead, live⟩
  rw [unrevived] at brings
  cases brings

theorem step_liveClient {event : Event} (taken : step state event = some next)
    (spared : bringsToLife state serverId event = false) {clientUuid : Uuid} {row : Row}
    (tracked : LiveClient next.tables serverId clientUuid row) :
    ∃ old, LiveClient state.tables serverId clientUuid old := by
  simp only [bringsToLife, Bool.or_eq_false_iff, any_eq_false, Bool.and_eq_true,
    not_and, Bool.not_eq_true] at spared
  obtain ⟨unconnected, unrevived⟩ := spared
  obtain ⟨change, added, rows, changes, adds, _⟩ := step_rows taken
  have member := tracked.member
  rw [rows] at member
  rcases mem_append.mp member with changed | new
  · obtain ⟨old, oldMember, same⟩ := mem_map.mp changed
    have changed := changes old oldMember
    rw [same] at changed
    have runtime := rowChange_runtime state changed tracked.runtime
    have server : old.serverId = serverId := changed.identity.serverId.symm.trans tracked.server
    refine ⟨old, oldMember, server, ?_, runtime⟩
    refine rowChange_live state event old row changed tracked.live ?_
    exact unrevived old oldMember ⟨by simp [Row.kind, runtime, Runtime.kind], by simp [server]⟩
  · obtain ⟨task, connect, address, runtime, happened, found, created, same⟩ := adds row new
    have kind := newRuntime_kind created
    have own := tracked.runtime
    have server := tracked.server
    rw [same] at own server
    subst happened
    simp only [newRow] at own server
    rw [own] at kind
    simp [connectsClient, found, Task.allocating, ← kind, Runtime.kind, server] at unconnected

end

def tracked (tables : Tables) (serverId : Uuid) (pair : ProfileCode × Uuid) : Bool :=
  tables.rows.any fun row =>
    row.live && row.serverId == serverId && row.runtime == .xrayClient pair.2 &&
      (tables.profile row.profileId).any fun profile => profile.agentCode == pair.1

variable (world : PruningWorld)

def prunedTracked (event : PruningEvent) (next : PruningWorld) :
    List (ProfileCode × Uuid) :=
  match event with
  | .drive _ serverId _ _ =>
    (takenAway (world.fleet.agents serverId).files (next.fleet.agents serverId).files).filter
      (tracked next.fleet.plane.tables serverId)
  | _ => []

/-- No client comes to life on a server being pruned, and a prune writes only while the served
clients it expects are recorded. -/
def sparesClients : PruningEvent → Bool
  | .fleet (.plane event) =>
    world.prunes.all fun prune => !bringsToLife world.fleet.plane prune.1 event
  | .drive pass serverId _ _ =>
    world.jobs.all fun job => !PruneCall.named pass serverId job.call ||
      decide (Bookkept (world.fleet.agents serverId).files job.call.keep)
  | _ => true

structure Complete : Prop where
  locked : Locked world
  expects : ∀ prune ∈ world.prunes, ∀ clientUuid row,
    LiveClient world.fleet.plane.tables prune.1 clientUuid row → clientUuid ∈ prune.2

section

variable {world next : PruningWorld}

theorem step_liveClients {event : PruningEvent} (taken : world.step event = some next)
    (spares : sparesClients world event = true) {prune : Uuid × List Uuid}
    (member : prune ∈ world.prunes) {clientUuid : Uuid} {row : Row}
    (live : LiveClient next.fleet.plane.tables prune.1 clientUuid row) :
    ∃ old, LiveClient world.fleet.plane.tables prune.1 clientUuid old := by
  cases step_pruningChange taken with
  | ofFleet fleetEvent happened _ stepped =>
    subst happened
    rcases step_plane stepped with
      ⟨planeEvent, happened, _, advances, _⟩ | ⟨task, answer, advances, _⟩ | ⟨plane, _⟩
    · subst happened
      have spared : bringsToLife world.fleet.plane prune.1 planeEvent = false := by
        simpa using all_eq_true.mp spares prune member
      exact step_liveClient _ _ advances.taken spared live
    · refine step_liveClient _ _ advances.taken ?_ live
      simp [bringsToLife, connectsClient, revives, finalizes]
    · rw [plane] at live
      exact ⟨row, live⟩
  | ofPass fleet | delivered _ _ fleet => exact ⟨row, fleet ▸ live⟩
  | driven _ _ _ _ _ _ _ _ _ fleet =>
    rw [fleet] at live
    exact ⟨row, live⟩

theorem tracked_liveClient {tables : Tables} {serverId : Uuid} {pair : ProfileCode × Uuid}
    (known : tracked tables serverId pair = true) :
    ∃ row, LiveClient tables serverId pair.2 row := by
  obtain ⟨row, member, holds⟩ := any_eq_true.mp known
  simp only [Bool.and_eq_true, beq_iff_eq] at holds
  obtain ⟨⟨⟨live, server⟩, runtime⟩, _⟩ := holds
  exact ⟨row, member, server, live, runtime⟩

theorem step_prunesUntracked {event : PruningEvent} (taken : world.step event = some next)
    (spares : sparesClients world event = true) (complete : Complete world) :
    prunedTracked world event next = [] := by
  have idle : next.fleet = world.fleet → prunedTracked world event next = [] := by
    intro fleet
    unfold prunedTracked
    split
    · rw [fleet]
      exact filter_eq_nil_iff.mpr fun pair gone => absurd gone takenAway_self
    · rfl
  cases step_pruningChange taken with
  | ofFleet fleetEvent happened =>
    subst happened
    rfl
  | ofPass fleet | delivered _ _ fleet => exact idle fleet
  | driven xrayEvent readable job files outcome happened member _ stepped fleet =>
    subst happened
    have bookkept : Bookkept (world.fleet.agents job.call.serverId).files job.call.keep := by
      simpa [PruneCall.named] using all_eq_true.mp spares job member
    refine filter_eq_nil_iff.mpr ?_
    intro pair gone
    rw [fleet] at gone ⊢
    simp only [World.setAgent, if_true] at gone ⊢
    intro known
    obtain ⟨row, live⟩ := tracked_liveClient known
    have underWay : job.call.snapshot ∈ world.prunes :=
      (mem_prunes world).mpr (Or.inr (Or.inr ⟨job, member, rfl⟩))
    have expected : pair.2 ∈ job.call.keep := complete.expects _ underWay pair.2 row live
    have reads := complete.locked.reads job member
    generalize job.phase = phase at stepped reads
    cases stepped with
    | locked | ended => exact takenAway_self gone
    | applies _ _ current _ _ holds applied =>
      refine applied_takes applied bookkept ?_ gone expected
      intro pair before wanted
      rw [reads current holds]
      obtain ⟨client, recorded, same⟩ := mem_map.mp before
      subst same
      exact mem_map_of_mem (mem_filter.mpr ⟨recorded, by simpa using wanted⟩)
    | rollsBack _ _ _ _ _ applied =>
      exact applied_takes applied bookkept (fun _ before _ => before) gone expected

end

/-- While `sparesClients`, no step of a prune takes away a client with a live row. -/
theorem prune_spares_tracked (fleet : World) (events : List PruningEvent)
    (meets : RunMeets PruningWorld.step (sparesClients · ·) events (beforePrunes fleet)) :
    EachStep PruningWorld.step (fun world event next => prunedTracked world event next = [])
      events (beforePrunes fleet) := by
  refine eachStep_of_invariant Complete ?_ ?_ ⟨beforePrunes_locked fleet, nofun⟩ meets
  swap
  · intro world event next complete spares taken
    exact step_prunesUntracked taken spares complete
  intro world event next complete spares taken
  refine ⟨step_locked taken complete.locked, ?_⟩
  intro prune member clientUuid row live
  rcases step_continues world next taken prune member with
    ⟨old, oldMember, sameServer, includes⟩ | ⟨fleet, read⟩
  · rw [← sameServer] at live
    obtain ⟨oldRow, oldLive⟩ := step_liveClients taken spares oldMember live
    exact includes clientUuid (complete.expects old oldMember clientUuid oldRow oldLive)
  · rw [read]
    obtain ⟨profile, known, sameProfile⟩ :=
      world.fleet.plane.database.consistent.rowProfiles row (fleet ▸ live).member
    obtain ⟨found, looked⟩ :=
      lookup_isSome_of_mem row.profileId world.fleet.plane.tables.profiles
          known
          sameProfile
    refine mem_filterMap.mpr ⟨(row, found.agentCode), ?_, by
      simp [clientUuidOf, (fleet ▸ live).runtime]⟩
    refine mem_filterMap.mpr ⟨row, (fleet ▸ live).member, ?_⟩
    simp [Row.kind, (fleet ▸ live).runtime, Runtime.kind, (fleet ▸ live).server, (fleet ▸
        live).live, Tables.profile,
      looked]

def strangerPruned : List PruningEvent :=
  clientProvisioned.map .fleet ++ [.fleet (.receive 0), .fleet (.plane (.finalize 0 11)),
    .fleet (.editServed 3 [(50, 114), (50, 999)] (.userpass [])), .begin, .read 0, .decrypt 0,
    .decrypt 0, .deliver 0 3 true, .drive 0 3 .lockAcquired true, .drive 0 3 .validated true,
    .drive 0 3 .applied true, .drive 0 3 .kicked true, .receive 0 3]

theorem prune_spares_tracked_strangerPruned :
    RunMeets PruningWorld.step (sparesClients · ·) strangerPruned (beforePrunes smallFleet) ∧
      ((runEvents PruningWorld.step strangerPruned (beforePrunes smallFleet)).any fun final =>
        (final.fleet.agents 3).files.xrayConfig == [(50, 114)]) = true ∧
      EachStep PruningWorld.step (fun world event next => prunedTracked world event next = [])
        strangerPruned (beforePrunes smallFleet) :=
  ⟨by decide +kernel, by decide +kernel,
    prune_spares_tracked smallFleet strangerPruned (by decide +kernel)⟩

/-- The prune reads the rows; a client connects and becomes active; then the agent gets to the
prune. -/
def connectedBehindPrune : List PruningEvent :=
  [.begin, .read 0, .decrypt 0] ++ clientProvisioned.map .fleet ++
    [.fleet (.receive 0), .fleet (.plane (.finalize 0 11)), .deliver 0 3 true,
      .drive 0 3 .lockAcquired true]

theorem tracked_pruned_connectedBehindPrune :
    ¬ EachStep PruningWorld.step (fun world event next => prunedTracked world event next = [])
      (connectedBehindPrune ++ [.drive 0 3 .validated true]) (beforePrunes smallFleet) :=
  not_eachStep PruningWorld.step
    (by decide +kernel)

end Nebula.Pruning
