import Nebula.ControlPlane.AccountSteps

/-!
# The addresses of the peers

`allocate_next_address` scans the hosts of a pool for the first free one. A row keeps its
address for good, and no step changes the pool or the gateway of a server. From the scan to the
insertion a connect holds the lock of its server, so the address it was given stays free unless a
finalization makes a row live again.
-/

namespace Nebula.Lifecycle

open Schema Runs ControlPlane List

def Scanned (version : IPVersion) (first count : Nat) (address : IPAddress) : Prop :=
  address.version = version ∧ first ≤ address.value ∧ address.value < first + count

def IsHost (pool : IPNetwork) : IPAddress → Prop :=
  Scanned pool.version pool.firstHost pool.hostCount

theorem contains_of_isHost {pool : IPNetwork} {address : IPAddress} (host : IsHost pool address) :
    pool.contains address = true := by
  obtain ⟨version, first, last⟩ := host
  have within : pool.base ≤ address.value ∧ address.value < pool.base + pool.size := by
    unfold IPNetwork.firstHost at first last
    unfold IPNetwork.hostCount at last
    split at last
    · simp_all
    · simp only [*, if_false] at first
      split at last <;> omega
  simp [IPNetwork.contains, version, within]

/-- The smallest host that is neither the gateway nor excluded, or none where there is none. -/
def AllocatesFirstFree (pool : IPNetwork) (gateway : Option IPAddress)
    (excluded : List IPAddress) : Prop :=
  (∀ address ∈ allocateNextAddress pool gateway excluded,
    IsHost pool address ∧ (gateway ≠ some address ∧ address ∉ excluded) ∧
      ∀ other, IsHost pool other → gateway ≠ some other ∧ other ∉ excluded →
        address.value ≤ other.value) ∧
    (allocateNextAddress pool gateway excluded = none ↔
      ∀ address, IsHost pool address → gateway = some address ∨ address ∈ excluded)

theorem firstFree_spec {version : IPVersion} (excluded : List IPAddress) (first count : Nat) :
    (∀ address ∈ firstFree version excluded first count,
      Scanned version first count address ∧ address ∉ excluded ∧
        ∀ other, Scanned version first count other → other ∉ excluded →
          address.value ≤ other.value) ∧
      (firstFree version excluded first count = none →
        ∀ other, Scanned version first count other → other ∈ excluded) := by
  induction count generalizing first with
  | zero => exact ⟨by simp [firstFree], fun _ other scanned => by unfold Scanned at scanned; omega⟩
  | succ count ih =>
    obtain ⟨found, none⟩ := ih (first + 1)
    unfold firstFree
    dsimp only
    split
    · rename_i taken
      -- The first address is excluded, so whatever is not comes later.
      have later : ∀ other, Scanned version first (count + 1) other → other ∉ excluded →
          Scanned version (first + 1) count other := by
        rintro other ⟨rfl, above, below⟩ free
        have different : other.value ≠ first := by
          rintro rfl
          exact free (by simpa using taken)
        exact ⟨rfl, by omega, by omega⟩
      refine ⟨fun address own => ?_, fun nothing other scanned => ?_⟩
      · obtain ⟨⟨same, above, below⟩, free, least⟩ := found address own
        exact ⟨⟨same, by omega, by omega⟩, free, fun other scanned open_ =>
          least other (later other scanned open_) open_⟩
      · by_contra free
        exact free (none nothing other (later other scanned free))
    · rename_i free
      refine ⟨fun address own => ?_, by simp⟩
      cases own
      exact ⟨⟨rfl, Nat.le_refl _, Nat.lt_add_of_pos_right (Nat.succ_pos _)⟩, by simpa using free,
        fun other scanned _ => scanned.2.1⟩

theorem allocates_firstFree (pool : IPNetwork) (gateway : Option IPAddress)
    (excluded : List IPAddress) : AllocatesFirstFree pool gateway excluded := by
  have open_ : ∀ address, address ∉ gateway.toList ++ excluded ↔
      gateway ≠ some address ∧ address ∉ excluded := by simp
  obtain ⟨found, none⟩ := firstFree_spec (gateway.toList ++ excluded) pool.firstHost pool.hostCount
  simp only [open_] at found
  refine ⟨found, fun nothing address host => ?_, fun all => ?_⟩
  · simpa using none nothing address host
  · refine Option.eq_none_iff_forall_not_mem.mpr fun address own => ?_
    obtain ⟨host, free, _⟩ := found address own
    exact not_or.mpr free (all address host)

def peerAddress (row : Row) : Option IPAddress :=
  match row.runtime with
  | .wireguardPeer _ assignedAddress => some assignedAddress
  | .xrayClient _ => none

abbrev Place := Uuid × Option IPNetwork × Option IPAddress

def place (server : Server) : Place :=
  (server.id, server.wireguardClientPool, server.wireguardGatewayAddress)

def Assignable (places : List Place) (serverId : Uuid) (address : IPAddress) : Prop :=
  ∃ pool gateway, (serverId, some pool, gateway) ∈ places ∧ pool.contains address = true ∧
    gateway ≠ some address

def Assigned (tables : Tables) : Prop :=
  ∀ row ∈ tables.rows, ∀ address ∈ peerAddress row,
    Assignable (tables.servers.map place) row.serverId address

/-- The live peers of a server have addresses of its pool, no two the same. -/
def AddressesApart (tables : Tables) : Prop :=
  Assigned { tables with rows := tables.rows.filter Row.live } ∧
    ∀ one ∈ tables.rows, ∀ other ∈ tables.rows, one.live = true → other.live = true →
      one.serverId = other.serverId → (peerAddress one).isSome = true →
        peerAddress one = peerAddress other → one = other

def Placed (places : List Place) : Task → Prop
  | .connectChecked connect => place connect.server ∈ places
  | .connectAllocated connect address => ∀ assigned ∈ address,
    Assignable places connect.server.id assigned
  | _ => True

structure Allocated (places : List Place) (state : State) : Prop where
  servers : state.tables.servers.map place = places
  rows : Assigned state.tables
  tasks : ∀ entry ∈ state.tasks, Placed places entry.2

theorem peerAddressLive_eq {row : Row} (live : row.live = true) :
    peerAddressLive row = (peerAddress row).map (Prod.mk row.serverId) := by
  unfold peerAddressLive peerAddress
  rw [live]
  cases row.runtime <;> rfl

section

variable {state next : State} {event : Event} {places : List Place}

theorem Allocated.apart (allocated : Allocated places state) : AddressesApart state.tables := by
  refine ⟨fun row member => allocated.rows row (mem_of_mem_filter member), ?_⟩
  intro one oneMember other otherMember oneLive otherLive server some_ same
  obtain ⟨address, own⟩ := Option.isSome_iff_exists.mp some_
  refine state.database.consistent.peerAddresses.eq_of_key oneMember otherMember
    ((peerAddressLive_eq oneLive).trans (congrArg _ own)) ?_
  rw [peerAddressLive_eq otherLive, ← same, own, server]
  rfl

theorem rowChange_address {old new : Row} (change : RowChange state event old new) :
    peerAddress new = peerAddress old := by
  cases change with
  | kept | marked => rfl
  | reconnected task connect =>
    unfold peerAddress reconnectedRow
    cases connect.publicKey <;> cases old.runtime <;> rfl
  | recovered _ now _ observed => simp [peerAddress, (recoveredRow_same observed now old).runtime]
  | finalized _ _ _ same => simp [peerAddress, same.runtime]

theorem allocate_some {tables : Tables} {connect : Connect} {assigned : IPAddress}
    (accepted : allocate tables connect = .ok (some assigned)) :
    connect.kind = .wireguardPeer ∧ ∃ pool, connect.server.wireguardClientPool = some pool ∧
      allocateNextAddress pool connect.server.wireguardGatewayAddress
        (liveAddresses tables connect.server.id) = some assigned := by
  unfold allocate allocateAddress at accepted
  simp only [bind, Except.bind] at accepted
  repeat' split at accepted
  all_goals simp only [Functor.map, Except.map, pure, Except.pure, reduceCtorEq, Except.ok.injEq,
    Option.some.injEq] at accepted
  rename_i peer _ pool configured _ address found
  exact ⟨peer, pool, configured, accepted ▸ found⟩

theorem allocate_assignable {tables : Tables} {connect : Connect} {address : Option IPAddress}
    (accepted : allocate tables connect = .ok address) (known : place connect.server ∈ places) :
    ∀ assigned ∈ address, Assignable places connect.server.id assigned := by
  rintro assigned rfl
  obtain ⟨_, pool, configured, found⟩ := allocate_some accepted
  obtain ⟨host, free, _⟩ := (allocates_firstFree pool _ _).1 assigned found
  rw [place, configured] at known
  exact ⟨pool, _, known, contains_of_isHost host, free.1⟩

theorem step_allocated (allocated : Allocated places state)
    (taken : step state event = some next) : Allocated places next := by
  obtain ⟨write, written, kept⟩ := (step_topology taken).servers
  have servers : next.tables.servers.map place = places := by
    rw [← allocated.servers, written, map_map]
    refine map_congr_left fun server _ => ?_
    obtain ⟨final, same⟩ := kept server
    rw [Function.comp_apply, same]
    rfl
  have rows := allocated.rows
  unfold Assigned at rows
  rw [allocated.servers] at rows
  refine ⟨servers, ?_, ?_⟩
  · unfold Assigned
    rw [servers]
    intro row member address own
    obtain ⟨change, added, after, changes, additions, _⟩ := step_rows taken
    rcases mem_append.mp (after ▸ member) with changed | new
    · obtain ⟨old, present, rfl⟩ := mem_map.mp changed
      rw [rowChange_address (changes old present)] at own
      rw [(changes old present).identity.serverId]
      exact rows old present address own
    · obtain ⟨task, connect, assigned, runtime, _, found, created, rfl⟩ := additions row new
      refine allocated.tasks _ (task_mem found) address ?_
      unfold newRuntime at created
      split at created <;> cases created
      · exact own
      · cases own
  · intro entry member
    rcases step_tasks taken member with ⟨old, _⟩ | start
    · exact allocated.tasks entry old
    obtain ⟨id, task⟩ := entry
    cases start with
    | connectChecked request allowed now connect _ accepted =>
      obtain ⟨present, _⟩ := requireActiveServer_spec (connectChecks_spec accepted)
      exact allocated.servers ▸ mem_map_of_mem present
    | connectAllocated connect address _ found _ accepted =>
      exact allocate_assignable accepted (allocated.tasks _ (task_mem found))
    | resumed received old _ _ _ resumes => cases resumes <;> trivial
    | _ => trivial

/-! ## Between the scan and the insertion -/

/-- A finalization that leaves its row live has found it live. -/
def keepsLive (state : State) (event : Event) : Bool :=
  (finalizes state event).all fun written =>
    (state.tables.row written.1).all fun row => !written.2.live || row.live

/-- What a connect was given and has not inserted yet is no live peer's address. -/
def AllocationsFree (state : State) : Prop :=
  ∀ entry ∈ state.tasks, ∀ connect address, entry.2 = .connectAllocated connect address →
    ∀ assigned ∈ address, assigned ∉ liveAddresses state.tables connect.server.id

structure Held (state : State) : Prop where
  exclusive : ∀ first ∈ state.tasks, ∀ second ∈ state.tasks, ∀ one oneAddress other otherAddress,
    first.2 = .connectAllocated one oneAddress → second.2 = .connectAllocated other otherAddress →
      one.kind = other.kind → one.server.id = other.server.id → first.1 = second.1
  free : ∀ entry ∈ state.tasks, ∀ connect address, entry.2 = .connectAllocated connect address →
    ∀ assigned ∈ address, connect.kind = .wireguardPeer ∧
      assigned ∉ liveAddresses state.tables connect.server.id

theorem mem_liveAddresses {tables : Tables} {serverId : Uuid} {address : IPAddress} :
    address ∈ liveAddresses tables serverId ↔ ∃ row ∈ tables.rows,
      peerAddress row = some address ∧ row.serverId = serverId ∧ row.live = true := by
  simp only [liveAddresses, mem_filterMap]
  refine exists_congr fun row => and_congr_right fun _ => ?_
  unfold peerAddress
  cases row.runtime <;> simp [and_comm]

theorem rowChange_live {old new : Row} (change : RowChange state event old new)
    (member : old ∈ state.tables.rows) (keeps : keepsLive state event = true)
    (live : new.live = true) : old.live = true := by
  rcases change.was_live live with before | written
  · exact before
  have found : state.tables.row old.id = some old :=
    Store.lookup_of_mem_nodup state.tables.rows state.database.consistent.rowIds member
  simpa [keepsLive, written, found, show new.state.live = true from live] using keeps

theorem step_liveAddresses (taken : step state event = some next)
    (keeps : keepsLive state event = true) {serverId : Uuid} {address : IPAddress}
    (member : address ∈ liveAddresses next.tables serverId) :
    address ∈ liveAddresses state.tables serverId ∨ ∃ task connect given,
      event = .connectCommit task ∧ state.task task = some (.connectAllocated connect given) ∧
        connect.kind = .wireguardPeer ∧ connect.server.id = serverId := by
  obtain ⟨row, present, own, server, live⟩ := mem_liveAddresses.mp member
  obtain ⟨change, added, after, changes, additions, _⟩ := step_rows taken
  rcases mem_append.mp (after ▸ present) with changed | new
  · obtain ⟨old, oldMember, rfl⟩ := mem_map.mp changed
    have change := changes old oldMember
    exact Or.inl (mem_liveAddresses.mpr ⟨old, oldMember, rowChange_address change ▸ own,
      change.identity.serverId ▸ server, rowChange_live change oldMember keeps live⟩)
  · obtain ⟨task, connect, given, runtime, happened, found, created, rfl⟩ := additions row new
    refine Or.inr ⟨task, connect, given, happened, found, ?_, server⟩
    rw [← newRuntime_kind created]
    cases runtime with
    | wireguardPeer key assigned => rfl
    | xrayClient uuid => cases own

theorem step_allocating (taken : step state event = some next) {entry : TaskId × Task}
    {connect : Connect} {address : Option IPAddress} (member : entry ∈ next.tasks)
    (allocated : entry.2 = .connectAllocated connect address) :
    (entry ∈ state.tasks ∧ event.task ≠ some entry.1) ∨
      (event = .connectLookup entry.1 ∧
        state.allocationHeld connect.kind connect.server.id = false ∧
        allocate state.tables connect = .ok address) := by
  rcases step_tasks taken member with old | start
  · exact Or.inl old
  obtain ⟨id, task⟩ := entry
  subst allocated
  cases start with
  | connectAllocated _ _ happened found free accepted => exact Or.inr ⟨happened, free, accepted⟩
  | resumed received old _ happened found resumes => cases resumes

theorem allocationHeld_false {connect other : Connect} {address : Option IPAddress}
    {entry : TaskId × Task} (free : state.allocationHeld connect.kind connect.server.id = false)
    (member : entry ∈ state.tasks) (allocated : entry.2 = .connectAllocated other address)
    (kinds : other.kind = connect.kind) (servers : other.server.id = connect.server.id) :
    False := by
  have held : state.allocationHeld connect.kind connect.server.id = true :=
    any_eq_true.mpr ⟨entry, member, by simp [allocated, Task.allocating, kinds, servers]⟩
  rw [free] at held
  cases held

theorem step_held (held : Held state) (keeps : keepsLive state event = true)
    (taken : step state event = some next) : Held next := by
  constructor
  · intro first firstMember second secondMember one _ other _ firstTask secondTask kinds servers
    rcases step_allocating taken firstMember firstTask with ⟨firstOld, _⟩ | ⟨firstTaken, free, _⟩
    · rcases step_allocating taken secondMember secondTask with ⟨secondOld, _⟩ | ⟨_, free, _⟩
      · exact held.exclusive first firstOld second secondOld one _ other _ firstTask secondTask
          kinds servers
      · exact (allocationHeld_false free firstOld firstTask kinds servers).elim
    · rcases step_allocating taken secondMember secondTask with ⟨secondOld, _⟩ | ⟨secondTaken, _⟩
      · exact (allocationHeld_false free secondOld secondTask kinds.symm servers.symm).elim
      · exact Event.connectLookup.inj (firstTaken.symm.trans secondTaken)
  · rintro entry member connect _ allocated assigned rfl
    rcases step_allocating taken member allocated with ⟨old, other⟩ | ⟨happened, _, accepted⟩
    · obtain ⟨kind, free⟩ := held.free entry old connect _ allocated assigned rfl
      refine ⟨kind, fun live => ?_⟩
      rcases step_liveAddresses taken keeps live with
        before | ⟨task, inserting, _, happened, found, peer, server⟩
      · exact free before
      -- The inserting connect holds the lock, so it is this one; but this one went on.
      have same := held.exclusive entry old (task, _) (task_mem found) connect _ inserting _
        allocated rfl (kind.trans peer.symm) server.symm
      exact other (by rw [happened, same]; rfl)
    · obtain ⟨kind, pool, _, found⟩ := allocate_some accepted
      refine ⟨kind, fun live => ?_⟩
      rcases step_liveAddresses taken keeps live with before | ⟨task, _, _, inserts, _⟩
      · exact ((allocates_firstFree pool _ _).1 assigned found).2.1.2 before
      · cases happened.symm.trans inserts

end

/-- The first free host is given and is still free when its connect inserts it, so live peers of a
server have addresses of its own. Where a finalization has made a row live again, the database
refuses a second row with its address. -/
theorem address_allocation_exact (events : List Event) (start : State) (idle : start.tasks = [])
    (assigned : Assigned start.tables) :
    (∀ pool gateway excluded, AllocatesFirstFree pool gateway excluded) ∧
      AlwaysAlong step (fun state => AddressesApart state.tables) events start ∧
      (RunMeets step (keepsLive · ·) events start →
        AlwaysAlong step AllocationsFree events start) := by
  refine ⟨allocates_firstFree, ?_, fun keeps => ?_⟩
  · refine alwaysAlong_of_invariant (Allocated _) _ ?_ ?_
      ⟨rfl, assigned, by simp [idle]⟩ (runMeets_of_forall step (fun _ _ => trivial) events start)
    · exact fun state event next allocated _ taken => step_allocated allocated taken
    · exact fun state allocated => allocated.apart
  · refine alwaysAlong_of_invariant Held AllocationsFree
      (fun _ _ _ held keeps taken => step_held held keeps taken) ?_ ⟨?_, ?_⟩ keeps
    · exact fun _ held entry member connect address allocated assigned own =>
        (held.free entry member connect address allocated assigned own).2
    all_goals
      intro entry member
      simp [idle] at member

def twoConnects : List Event :=
  [.admin (.registerDevice ⟨6, 1, .active⟩), .connectCheck ⟨1, 2, 30, 40, some 7⟩ true 10,
    .connectCheck ⟨1, 6, 30, 40, some 8⟩ true 10, .connectLookup 0, .connectCommit 0,
    .connectLookup 1, .connectCommit 1]

theorem address_allocation_exact_twoConnects :
    AlwaysAlong step (fun state => AddressesApart state.tables) twoConnects smallStart ∧
      AlwaysAlong step AllocationsFree twoConnects smallStart ∧
      ((runEvents step twoConnects smallStart).map fun final =>
        final.tables.rows.map peerAddress) = some [some ⟨.v4, 2⟩, some ⟨.v4, 3⟩] :=
  have exact_ := address_allocation_exact twoConnects smallStart rfl (forall_mem_nil _)
  ⟨exact_.2.1, exact_.2.2 (by decide +kernel), by decide +kernel⟩

end Nebula.Lifecycle
