import Nebula.Audit.Chain

/-!
# Paging through the audit log

`list_events` asks for the rows that meet the filters, newest first, and cuts a page out with
`LIMIT` and `OFFSET`. Each page is a query of its own, and `ORDER BY recorded_at DESC` leaves rows
of one time in any order, so pages need not be cut out of one list. A row's time is when its
transaction began: the three of `_audit_transition` share one.
-/

namespace Nebula.Audit

open Schema Json List

structure AuditLogFilters where
  actorKind : Option Text := none
  targetKind : Option Text := none
  eventCode : Option Text := none
  outcome : Option Text := none
  actorId : Option Uuid := none
  targetId : Option Uuid := none
  recordedAfter : Option Instant := none
  recordedBefore : Option Instant := none

/-- `_conditions`: one for each filter that is set. -/
def AuditLogFilters.conditions (filters : AuditLogFilters) (row : AuditLogEntry) : Bool :=
  filters.actorKind.all (row.actorKind == ·) && filters.targetKind.all (row.targetKind == ·) &&
  filters.eventCode.all (row.eventCode == ·) && filters.outcome.all (row.outcome == ·) &&
  filters.actorId.all (row.actorId == some ·) && filters.targetId.all (row.targetId == ·) &&
  filters.recordedAfter.all (decide <| · ≤ row.recordedAt) &&
  filters.recordedBefore.all (decide <| row.recordedAt ≤ ·)

/-- `ORDER BY recorded_at DESC` puts no row before a newer one. -/
def NotOlder (first second : AuditLogEntry) : Prop :=
  second.recordedAt ≤ first.recordedAt
  deriving Decidable

/-- How the database orders the rows of one query: any way that the clause allows. -/
structure RowOrder where
  sort : List AuditLogEntry → List AuditLogEntry
  perm : ∀ rows, (sort rows).Perm rows
  sorted : ∀ rows, (sort rows).Pairwise NotOlder

instance : Std.Total NotOlder := ⟨fun _ _ => Nat.le_total _ _⟩

instance : IsTrans AuditLogEntry NotOlder := ⟨fun _ _ _ upper lower => Nat.le_trans lower upper⟩

def insertionOrder (backwards : Bool) : RowOrder where
  sort rows := (if backwards then rows.reverse else rows).insertionSort NotOlder
  perm rows := by
    refine (List.perm_insertionSort _ _).trans ?_
    cases backwards
    · exact List.Perm.refl rows
    · exact rows.reverse_perm
  sorted rows := List.pairwise_insertionSort _ _

def maxLimit : Int := 200

structure AuditLogPage where
  items : List AuditLogEntry
  total : Nat

section

variable (log : List AuditLogEntry) (filters : AuditLogFilters)

def listEvents (order : RowOrder) (limit offset : Int) : AuditLogPage :=
  let boundedLimit := max 1 (min limit maxLimit)
  let boundedOffset := max 0 offset
  let rows := log.filter filters.conditions
  { items := ((order.sort rows).drop boundedOffset.toNat).take boundedLimit.toNat
    total := rows.length }

def pagedEvents (orders : Nat → RowOrder) (limit pages : Nat) : List AuditLogEntry :=
  (List.range pages).flatMap fun page =>
    (listEvents log filters (orders page) limit (page * limit : Nat)).items

/-- However each page was ordered, enough pages list the matching events and nothing twice. -/
def ShowsEachOnce (limit : Nat) : Prop :=
  ∀ (orders : Nat → RowOrder) (pages : Nat),
    (listEvents log filters (orders 0) limit 0).total ≤ pages * limit →
      (pagedEvents log filters orders limit pages).Perm (log.filter filters.conditions)

theorem listEvents_items {order : RowOrder} {limit : Nat} (positive : 1 ≤ limit)
    (bounded : limit ≤ maxLimit) {offset : Nat} :
    (listEvents log filters order limit offset).items =
      ((order.sort (log.filter filters.conditions)).drop offset).take limit := by
  have keptLimit : max 1 (min (limit : Int) maxLimit) = limit := by omega
  have keptOffset : max 0 (offset : Int) = offset := by omega
  simp only [listEvents, keptLimit, keptOffset, Int.toNat_natCast]

variable (rows : List AuditLogEntry)

/-- How many of the rows are newer than this one, and how many are no older. -/
def newer (row : AuditLogEntry) : Nat :=
  rows.countP (row.recordedAt < ·.recordedAt)

def noOlder (row : AuditLogEntry) : Nat :=
  rows.countP (row.recordedAt ≤ ·.recordedAt)

/-- The first and the last place of a time's rows are on one page. -/
def TimesUncut (limit : Nat) : Prop :=
  ∀ row ∈ rows, newer rows row / limit = (noOlder rows row - 1) / limit
  deriving Decidable

variable {rows : List AuditLogEntry} {limit : Nat}

theorem place_bounds (order : RowOrder) {place : Nat} (inside : place < (order.sort rows).length) :
    newer rows (order.sort rows)[place] ≤ place ∧
      place < noOlder rows (order.sort rows)[place] := by
  have sorted := order.sorted rows
  rw [newer, noOlder, ← (order.perm rows).countP_eq, ← (order.perm rows).countP_eq]
  generalize order.sort rows = sort at sorted inside ⊢
  have split : sort.take place ++ sort[place] :: sort.drop (place + 1) = sort := by
    rw [← drop_eq_getElem_cons, take_append_drop]
  generalize sort[place] = row at split ⊢
  have long : (sort.take place).length = place := length_take_of_le (by omega)
  rw [← split] at sorted ⊢
  obtain ⟨-, later, ahead⟩ := pairwise_append.mp sorted
  have behind := (pairwise_cons.mp later).1
  simp only [NotOlder] at ahead behind
  have none : (sort.drop (place + 1)).countP (row.recordedAt < ·.recordedAt) = 0 :=
    countP_eq_zero.mpr fun other member => by simpa using behind other member
  have all : (sort.take place).countP (row.recordedAt ≤ ·.recordedAt) = place :=
    (countP_eq_length.mpr fun other member => by
      simpa using ahead other member row mem_cons_self).trans long
  have few := @countP_le_length _ (row.recordedAt < ·.recordedAt) (sort.take place)
  simp only [countP_append, countP_cons, none, all]
  simp
  omega

theorem take_eq_filter (positive : 1 ≤ limit) (uncut : TimesUncut rows limit) (order : RowOrder)
    (page : Nat) : (order.sort rows).take (page * limit) =
      (order.sort rows).filter (newer rows · < page * limit) := by
  have early : ∀ row ∈ (order.sort rows).take (page * limit), newer rows row < page * limit := by
    intro row member
    obtain ⟨place, inside, rfl⟩ := mem_take_iff_getElem.mp member
    have bounds := place_bounds order (show place < (order.sort rows).length by omega)
    omega
  have late : ∀ row ∈ (order.sort rows).drop (page * limit), ¬ newer rows row < page * limit := by
    intro row member before
    have own := uncut row ((order.perm rows).subset (mem_of_mem_drop member))
    obtain ⟨place, inside, rfl⟩ := mem_drop_iff_getElem.mp member
    have bounds := place_bounds order
      (show page * limit + place < (order.sort rows).length by omega)
    rw [← Nat.div_lt_iff_lt_mul positive, own, Nat.div_lt_iff_lt_mul positive] at before
    omega
  conv_rhs => rw [← take_append_drop (page * limit) (order.sort rows)]
  rw [filter_append, filter_eq_self.mpr (by simpa using early),
    filter_eq_nil_iff.mpr (by simpa using late), append_nil]

/-- Where no time is cut, what the first pages hold does not depend on the orders. -/
theorem pages_perm (orders : Nat → RowOrder) (positive : 1 ≤ limit) (bounded : limit ≤ maxLimit)
    (uncut : TimesUncut (log.filter filters.conditions) limit) (order : RowOrder) (pages : Nat) :
    (pagedEvents log filters orders limit pages).Perm
      ((order.sort (log.filter filters.conditions)).take (pages * limit)) := by
  induction pages generalizing order with
  | zero => simp [pagedEvents]
  | succ pages ih =>
    have last : pagedEvents log filters orders limit (pages + 1) =
        pagedEvents log filters orders limit pages ++
          (((orders pages).sort (log.filter filters.conditions)).drop (pages * limit)).take
            limit := by
      rw [pagedEvents, range_succ, flatMap_append, flatMap_singleton,
        listEvents_items log filters positive bounded]
      rfl
    rw [last]
    refine ((ih (orders pages)).append_right _).trans ?_
    rw [← take_add, ← Nat.succ_mul, take_eq_filter positive uncut, take_eq_filter positive uncut]
    exact (((orders pages).perm _).trans (order.perm _).symm).filter _

/-- Two neighbours of one time, exchanged. -/
def exchanged (order : RowOrder) (rows : List AuditLogEntry) (place : Nat)
    (inside : place + 1 < (order.sort rows).length)
    (same : (order.sort rows)[place].recordedAt = (order.sort rows)[place + 1].recordedAt) :
    RowOrder where
  sort given :=
    if given = rows then
      ((order.sort rows).set place (order.sort rows)[place + 1]).set (place + 1)
        (order.sort rows)[place]
    else order.sort given
  perm given := by
    split
    · rename_i asked
      rw [asked]
      exact (set_set_perm (by omega) inside).trans (order.perm rows)
    · exact order.perm given
  sorted given := by
    split
    · have byTime (sort : List AuditLogEntry) : sort.Pairwise NotOlder ↔
          (sort.map (·.recordedAt)).Pairwise (· ≥ ·) := by
        rw [pairwise_map]
        rfl
      have inTime : place + 1 < ((order.sort rows).map (·.recordedAt)).length := by simpa
      have first : (order.sort rows)[place + 1].recordedAt =
          ((order.sort rows).map (·.recordedAt))[place] := by simp [same]
      have second : (order.sort rows)[place].recordedAt =
          ((order.sort rows).map (·.recordedAt))[place + 1] := by simp [same]
      rw [byTime, map_set, map_set, first, set_getElem_self, second, set_getElem_self, ← byTime]
      exact order.sorted rows
    · exact order.sorted given

/-- The places between a time's first and its last are that time's. -/
theorem time_of_place (order : RowOrder) {place : Nat} (inside : place < (order.sort rows).length)
    {row : AuditLogEntry} (above : newer rows row ≤ place) (below : place < noOlder rows row) :
    (order.sort rows)[place].recordedAt = row.recordedAt := by
  have bounds := place_bounds order inside
  generalize (order.sort rows)[place] = found at bounds ⊢
  rcases Nat.lt_trichotomy found.recordedAt row.recordedAt with older | same | younger
  · have few : noOlder rows row ≤ newer rows found := countP_mono_left fun _ _ known =>
      decide_eq_true (Nat.lt_of_lt_of_le older (of_decide_eq_true known))
    omega
  · exact same
  · have few : noOlder rows found ≤ newer rows row := countP_mono_left fun _ _ known =>
      decide_eq_true (Nat.lt_of_lt_of_le younger (of_decide_eq_true known))
    omega

theorem place_on_page (positive : 1 ≤ limit) (bounded : limit ≤ maxLimit) (order : RowOrder)
    {page place : Nat} (inside : place < (order.sort (log.filter filters.conditions)).length)
    (here : place / limit = page) :
    (order.sort (log.filter filters.conditions))[place] ∈
      (listEvents log filters order limit (page * limit : Nat)).items := by
  have split := Nat.div_add_mod' place limit
  have short := Nat.mod_lt place positive
  rw [listEvents_items log filters positive bounded, mem_take_iff_getElem]
  refine ⟨place % limit, by rw [length_drop, ← here]; omega, ?_⟩
  rw [getElem_drop]
  congr 1
  rw [← here, split]

/-- Where a time is cut, the last row of a page and the first of the next are of one time. -/
theorem exists_cut (positive : 1 ≤ limit) (order : RowOrder) (cut : ¬ TimesUncut rows limit) :
    ∃ (page last : Nat) (inside : last + 1 < (order.sort rows).length),
      (page + 1) * limit = last + 1 ∧
        (order.sort rows)[last].recordedAt = (order.sort rows)[last + 1].recordedAt := by
  simp only [TimesUncut, not_forall] at cut
  obtain ⟨row, member, apart⟩ := cut
  obtain ⟨place, here, found⟩ := mem_iff_getElem.mp ((order.perm rows).mem_iff.mpr member)
  have bounds := place_bounds order here
  rw [found] at bounds
  have ordered : newer rows row / limit ≤ (noOlder rows row - 1) / limit :=
    Nat.div_le_div_right (by omega)
  obtain ⟨page, next⟩ : ∃ page, (noOlder rows row - 1) / limit = page + 1 :=
    Nat.exists_eq_add_one.mpr (Nat.zero_lt_of_lt (Nat.lt_of_le_of_ne ordered apart))
  have below : (page + 1) * limit ≤ noOlder rows row - 1 := next ▸ Nat.div_mul_le_self _ _
  have above : newer rows row < (page + 1) * limit :=
    (Nat.div_lt_iff_lt_mul positive).mp (by omega)
  have most : noOlder rows row ≤ rows.length := countP_le_length
  have length := (order.perm rows).length_eq
  obtain ⟨last, border⟩ : ∃ last, (page + 1) * limit = last + 1 :=
    Nat.exists_eq_add_one.mpr (by omega)
  have time := @time_of_place rows order
  exact ⟨page, last, by omega, border, (time (by omega) (by omega) (by omega)).trans
    (time (by omega) (show newer rows row ≤ _ by omega) (by omega)).symm⟩

/-- The page before the cut ends with a row that the next page's query puts behind its neighbour. -/
theorem uncut_of_shows (distinct : log.Nodup) (positive : 1 ≤ limit)
    (bounded : limit ≤ maxLimit) (shows : ShowsEachOnce log filters limit) :
    TimesUncut (log.filter filters.conditions) limit := by
  by_contra cut
  let order := insertionOrder false
  obtain ⟨page, last, inside, border, same⟩ := exists_cut positive order cut
  let next := exchanged order _ last inside same
  have length := (next.perm (log.filter filters.conditions)).length_eq
  rw [← (order.perm (log.filter filters.conditions)).length_eq] at length
  have first : page * limit ≤ last := by
    rw [Nat.succ_mul] at border
    omega
  have shown := place_on_page log filters positive bounded order (by omega)
    (Nat.div_eq_of_lt_le first (by omega))
  have again := place_on_page log filters positive bounded next (by omega)
    (show (last + 1) / limit = page + 1 from border ▸ Nat.mul_div_cancel _ positive)
  have moved : (next.sort (log.filter filters.conditions))[last + 1] =
      (order.sort (log.filter filters.conditions))[last] := by simp [next, exchanged]
  rw [moved] at again
  have pages : page + 1 < (log.filter filters.conditions).length := by
    have := Nat.le_mul_of_pos_right (page + 1) positive
    rw [← (order.perm _).length_eq]
    omega
  have listed := shows (fun asked => if asked ≤ page then order else next)
    (log.filter filters.conditions).length
    (Nat.le_mul_of_pos_right _ positive)
  have unique := listed.nodup_iff.mpr (distinct.filter _)
  have apart := pairwise_iff_getElem.mp (nodup_flatMap.mp unique).2 page (page + 1)
    (length_range ▸ Nat.lt_of_succ_lt pages) (length_range ▸ pages) (by omega)
  simp only [Function.onFun, getElem_range, Nat.le_refl, if_true, Nat.not_succ_le_self, if_false]
    at apart
  exact apart shown again

theorem pages_show_each_once (limit : Nat) (distinct : log.Nodup) (positive : 1 ≤ limit)
    (bounded : limit ≤ maxLimit) :
    ShowsEachOnce log filters limit ↔ TimesUncut (log.filter filters.conditions) limit := by
  refine ⟨uncut_of_shows log filters distinct positive bounded, fun uncut orders pages enough => ?_⟩
  have listed := pages_perm log filters orders positive bounded uncut (orders 0) pages
  rw [take_of_length_le (by rw [((orders 0).perm _).length_eq]; exact enough)] at listed
  exact listed.trans ((orders 0).perm _)

end

/-- The rows `_audit_transition` adds, the first under the given id, at its transaction's time. -/
def auditTransition (id credentialId peerId operationId userId requestId : Uuid)
    (outcome reason peerTargetKind : Text) (began : Instant) : List AuditLogEntry :=
  let added (id : Uuid) (targetKind : Text) (targetId : Uuid) (eventCode reasonCode : Text) :=
    AuditLogEntry.mk id "user".toList (some userId) targetKind targetId eventCode outcome
      (some reasonCode) (some requestId) began
  [added id "device_credential".toList credentialId "credential_changed".toList reason,
    added (id + 1) peerTargetKind peerId "peer_changed".toList reason,
    added (id + 2) "agent_operation".toList operationId "operation_changed".toList outcome]

def activated (id : Uuid) (began : Instant) : List AuditLogEntry :=
  auditTransition id 4 5 6 7 8 "succeeded".toList "activated".toList "wireguard_peer".toList began

/-- One activation, one row to a page: the last page shows the first row again. -/
theorem shared_time_shown_twice : ¬ ShowsEachOnce (activated 1 9) {} 1 := by
  intro shows
  have listed := shows (fun page => insertionOrder (page == 2)) 3 (by decide)
  revert listed
  decide

theorem pages_show_peer_changes :
    ShowsEachOnce (activated 1 9 ++ activated 11 10)
      { eventCode := some "peer_changed".toList } 1 :=
  (pages_show_each_once _ _ _ (by decide) (by decide) (by decide)).mpr (by decide)

end Nebula.Audit
