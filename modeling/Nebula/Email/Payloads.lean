import Nebula.Email.Claims

/-!
# Payloads that are staged

A delivery can be claimed as soon as its row is committed, which is before its payload is in
Redis, and a read that fails looks like a payload that is not there; either way the delivery
fails for good.
-/

namespace Nebula.Email

open Schema Store Json Runs Work List Option

variable (state : State)

def StagedDelivered : Prop :=
  ∀ entry ∈ state.unavailable, ∀ staged ∈ state.payloads, staged.deliveryId = entry.1 →
    staged.expiresAt ≤ entry.2
  deriving Decidable

def Poll.reads : Poll → Option ClaimedDelivery
  | .delivering _ current .reading _ => some current
  | _ => none

/-- A payload is read once its staging is over, and the read is answered. -/
def ReadsAfterStaging : Event → Prop
  | .read number answers =>
    ∀ current ∈ (state.polls.find number).bind Poll.reads,
      answers = true ∧ ∀ job ∈ state.stagings.jobs, job.2.deliveryId ≠ current.id
  | _ => True

instance (event : Event) : Decidable (ReadsAfterStaging state event) := by
  unfold ReadsAfterStaging
  split <;> infer_instance

/-! ## A payload that was staged can be read -/

theorem payload_wellFormed (decoder : Decoder) (payload : Payload) :
    MembersWellFormed decoder (payload.map fun entry =>
      (asUnits entry.1, Value.text (asUnits entry.2))) := by
  rw [membersWellFormed_iff]
  intro member among
  obtain ⟨entry, _, rfl⟩ := mem_map.mp among
  trivial

theorem readEmailPayload_dump (decoder : Decoder) (payload : Payload) :
    (readEmailPayload decoder (some (dumpPayload payload))).isSome = true := by
  have texts : ∀ member ∈ dict (payload.map fun entry =>
      (asUnits entry.1, Value.text (asUnits entry.2))), isTextValue member.2 = true := by
    refine dict_values (isTextValue · = true) fun pair among => ?_
    obtain ⟨entry, _, rfl⟩ := mem_map.mp among
    rfl
  have flat : ∀ value, isTextValue value = true → value.flat = true := by
    intro value text
    cases value <;> first | rfl | cases text
  have read := loads_dumps decoder (dict_wellFormed decoder (payload_wellFormed decoder payload))
    (decoder.flat _ fun member among => flat _ (texts member among))
  rw [readEmailPayload, bind_some, dumpPayload, read]
  simp [all_eq_true.mpr texts]

/-! ## A payload that is gone -/

structure Gone (id : Uuid) (moment : Instant) : Prop where
  known : id ∈ state.known
  unstaged : ∀ job ∈ state.stagings.jobs, job.2.deliveryId ≠ id
  expired : ∀ staged ∈ state.payloads, staged.deliveryId = id → staged.expiresAt ≤ moment

def Poll.missing : Poll → Option ClaimedDelivery
  | .delivering _ current (.finalizing .payloadUnavailable) _ => some current
  | _ => none

structure PollSound (poll : Poll) : Prop where
  known : ∀ claim ∈ poll.claims, claim.id ∈ state.known
  gone : ∀ claim, poll.missing = some claim → Gone state claim.id state.now

structure PayloadsKept : Prop where
  rows : ∀ row ∈ state.deliveries, row.id ∈ state.known
  raw : ∀ staged ∈ state.payloads, ∃ payload, staged.raw = dumpPayload payload
  polls : ∀ job ∈ state.polls.jobs, PollSound state job.2
  unavailable : ∀ entry ∈ state.unavailable, Gone state entry.1 entry.2

section

variable {state : State}

theorem Gone.later {id : Uuid} {moment later : Instant} (gone : Gone state id moment)
    (order : moment ≤ later) : Gone state id later :=
  ⟨gone.known, gone.unstaged, fun staged member named =>
    Nat.le_trans (gone.expired staged member named) order⟩

theorem pollSound_of_found {later : Poll} (known : ∀ claim ∈ later.claims, claim.id ∈ state.known)
    (found : later.missing = none) : PollSound state later := by
  refine ⟨known, ?_⟩
  intro claim missing
  rw [found] at missing
  cases missing

variable {rest : List ClaimedDelivery} {now : Instant}

theorem next_missing {later : Poll}
    (next : Poll.next now rest = some later) : later.missing = none := by
  cases rest with
  | nil => cases next
  | cons current rest =>
    cases next
    rfl

theorem PollSound.next {current : ClaimedDelivery} {stage : Stage} (sound : PollSound state
    (.delivering now current stage rest))
    (later : Poll) (next : Poll.next now rest = some later) : PollSound state later := by
  refine pollSound_of_found ?_ (next_missing next)
  rw [Poll.claims_next next]
  exact fun claim member => sound.known claim (mem_cons_of_mem _ member)

variable (kept : PayloadsKept state)
include kept

theorem PayloadsKept.resume (number : Nat) (next : Option Poll)
    (sound : ∀ later, next = some later → PollSound state later)
    (deliveries : List EmailDelivery) (rows : ∀ row ∈ deliveries, row.id ∈ state.known) :
    PayloadsKept { state.resumePoll number next with deliveries := deliveries } := by
  refine ⟨rows, kept.raw, ?_, fun entry member => ?_⟩
  · intro job member
    have before := Pool.forall_resume kept.polls sound job member
    exact ⟨before.known, fun claim missing => { before.gone claim missing with }⟩
  · exact { kept.unavailable entry member with }

theorem PayloadsKept.finish (number : Nat) :
    PayloadsKept (state.resumePoll number none) := by
  refine kept.resume number none ?_ _ kept.rows
  intro later none
  cases none

theorem PayloadsKept.goOn (number : Nat) (later : Poll)
    (sound : PollSound state later) (deliveries : List EmailDelivery)
    (rows : ∀ row ∈ deliveries, row.id ∈ state.known) :
    PayloadsKept { state.resumePoll number (some later) with deliveries := deliveries } := by
  refine kept.resume number (some later) ?_ deliveries rows
  intro next goes
  rw [← some.inj goes]
  exact sound

theorem PayloadsKept.store (after : State)
    (polls : after.polls = state.polls) (unavailable : after.unavailable = state.unavailable)
    (order : state.now ≤ after.now) (known : ∀ id ∈ state.known, id ∈ after.known)
    (rows : ∀ row ∈ after.deliveries, row.id ∈ after.known)
    (raw : ∀ staged ∈ after.payloads, ∃ payload, staged.raw = dumpPayload payload)
    (gone : ∀ id moment, Gone state id moment → Gone after id moment) : PayloadsKept after := by
  refine ⟨rows, raw, ?_, ?_⟩
  · rw [polls]
    intro job member
    have sound := kept.polls job member
    exact ⟨fun claim among => known _ (sound.known claim among), fun claim missing =>
      (gone _ _ (sound.gone claim missing)).later order⟩
  · rw [unavailable]
    exact fun entry member => gone _ _ (kept.unavailable entry member)

omit kept

theorem read_sound (decoder : Decoder) (kept : PayloadsKept state)
    {current : ClaimedDelivery} (sound : PollSound state (.delivering now current .reading rest))
    (over_ : ∀ job ∈ state.stagings.jobs, job.2.deliveryId ≠ current.id) :
    PollSound state (.delivering now current (afterRead current
      (readEmailPayload decoder (redisGet state.payloads state.now current.id))) rest) := by
  refine ⟨sound.known, ?_⟩
  intro claim missing
  cases got : redisGet state.payloads state.now current.id with
  | none =>
    have named : current = claim := by simpa [got, readEmailPayload, afterRead, Poll.missing]
      using missing
    subst named
    refine ⟨sound.known current mem_cons_self, over_, ?_⟩
    intro staged member named
    simp only [redisGet, map_eq_none_iff, find?_eq_none, decide_eq_true_eq,
      not_and, Nat.not_lt] at got
    exact got staged member named
  | some raw =>
    obtain ⟨staged, at_, rfl⟩ := map_eq_some_iff.mp got
    obtain ⟨payload, written⟩ := kept.raw staged (mem_of_find?_eq_some at_)
    obtain ⟨members, read⟩ := isSome_iff_exists.mp (readEmailPayload_dump decoder payload)
    rw [got, written, read] at missing
    by_cases unknown : current.templateCode = .unknown
    · simp [afterRead, unknown, Poll.missing] at missing
    · simp [afterRead, unknown, Poll.missing] at missing

end

section

variable (decoder : Decoder) (settings : Settings)

theorem ids_known {before : State} (kept : PayloadsKept before) (selected : EmailDelivery → Bool)
    (write : EmailDelivery → EmailDelivery) (sameId : ∀ row, (write row).id = row.id) :
    ∀ row ∈ updateWhere selected write before.deliveries, row.id ∈ before.known := by
  intro row member
  obtain ⟨old, among, ⟨_, rfl⟩ | ⟨_, rfl⟩⟩ := mem_updateWhere _ _ member
  · rw [sameId]
    exact kept.rows old among
  · exact kept.rows row among

theorem step_payloadsKept {before after : State} {event : Event} (kept : PayloadsKept before)
    (reads : ReadsAfterStaging before event)
    (taken : step decoder settings before event = some after) : PayloadsKept after := by
  cases event with
  | tick later =>
    obtain ⟨order, taken⟩ := ite_none_right_eq_some.mp taken
    cases taken
    exact kept.store _ rfl rfl order (fun _ known => known) kept.rows kept.raw
      fun _ _ gone => { gone with }
  | enqueue id templateCode recipientAddress availableAt payload ttlSeconds =>
    obtain ⟨fresh, taken⟩ := ite_none_left_eq_some.mp taken
    cases taken
    refine kept.store _ rfl rfl (Nat.le_refl _) (fun _ known => mem_append_left _ known)
      ?_ kept.raw ?_
    · exact forall_mem_added (fun row old => mem_append_left _ (kept.rows row old))
        (mem_append_right _ mem_cons_self)
    intro other moment gone
    refine ⟨mem_append_left _ gone.known, Pool.forall_begin gone.unstaged ?_, gone.expired⟩
    rintro rfl
    exact fresh gone.known
  | stage number stored =>
    obtain ⟨staging, found, rfl⟩ := map_eq_some_iff.mp taken
    have present := before.stagings.find_mem number staging found
    have split : ∀ staged ∈ (if stored = true then redisSet before.payloads before.now
        ⟨staging.deliveryId, dumpPayload staging.payload, before.now + staging.ttlSeconds⟩
        else before.payloads), staged ∈ before.payloads ∨
          staged = ⟨staging.deliveryId, dumpPayload staging.payload,
            before.now + staging.ttlSeconds⟩ := by
      intro staged member
      split at member
      · unfold redisSet at member
        split at member
        · exact Or.inl member
        · exact (mem_append.mp member).imp_right mem_singleton.mp
      · exact Or.inl member
    refine kept.store _ rfl rfl (Nat.le_refl _) (fun _ known => known) kept.rows ?_ ?_
    · intro staged member
      rcases split staged member with old | new
      · exact kept.raw staged old
      · exact ⟨staging.payload, by rw [new]⟩
    · intro other moment gone
      refine ⟨gone.known, Pool.forall_finish gone.unstaged, ?_⟩
      intro staged member named
      rcases split staged member with old | new
      · exact gone.expired staged old named
      · rw [new] at named
        exact absurd named (gone.unstaged _ present)
  | abandonStaging number =>
    obtain ⟨staging, _, rfl⟩ := map_eq_some_iff.mp taken
    refine kept.store _ rfl rfl (Nat.le_refl _) (fun _ known => known) kept.rows kept.raw ?_
    exact fun _ _ gone => ⟨gone.known, Pool.forall_finish gone.unstaged, gone.expired⟩
  | delete ids =>
    cases taken
    exact kept.store _ rfl rfl (Nat.le_refl _) (fun _ known => known)
      (fun row member => kept.rows row (mem_of_mem_filter member)) kept.raw
      fun _ _ gone => { gone with }
  | beginPoll clock =>
    cases taken
    refine ⟨kept.rows, kept.raw, ?_, fun entry member => { kept.unavailable entry member with }⟩
    refine Pool.forall_begin (fun job old => ?_) (pollSound_of_found (forall_mem_nil _) rfl)
    have sound := kept.polls job old
    exact ⟨sound.known, fun claim missing => { sound.gone claim missing with }⟩
  | reclaim number =>
    simp only [step] at taken
    split at taken
    swap
    · cases taken
    rename_i now found
    split at taken
    · rename_i deliveries updated
      cases taken
      rw [updateRows_some _ _ updated]
      exact kept.goOn number (.reclaimed now)
        (pollSound_of_found (forall_mem_nil _) rfl) _
        (ids_known kept _ _ fun _ => rfl)
    · cases taken
      exact kept.finish number
  | claim number locked chosen =>
    simp only [step] at taken
    split at taken
    swap
    · cases taken
    obtain ⟨_, taken⟩ := ite_none_right_eq_some.mp taken
    cases taken
    refine kept.resume number _ ?_ _ (ids_known kept _ _ fun _ => rfl)
    intro later next
    refine pollSound_of_found ?_ (next_missing next)
    rw [Poll.claims_next next]
    intro claim member
    obtain ⟨row, among, rfl⟩ := mem_map.mp member
    obtain ⟨id, _, at_⟩ := mem_filterMap.mp among
    exact kept.rows row (lookup_mem at_).1
  | read number answers =>
    simp only [step] at taken
    split at taken
    · rename_i now current rest found
      cases taken
      obtain ⟨answered, over_⟩ := reads current (by rw [found]; rfl)
      have sound := kept.polls _ (before.polls.find_mem number _ found)
      have read := read_sound decoder kept sound over_
      rw [answered, if_pos rfl]
      exact kept.goOn number _ read _ kept.rows
    · cases taken
  | send number outcome =>
    simp only [step] at taken
    split at taken
    swap
    · cases taken
    rename_i now current rest found
    cases taken
    have sound := kept.polls _ (before.polls.find_mem number _ found)
    refine kept.resume number _ ?_ _ kept.rows
    intro later next
    cases outcome with
    | accepted | sendError =>
      cases next
      exact pollSound_of_found sound.known rfl
    | raised => exact sound.next later next
  | finalize number =>
    simp only [step] at taken
    split at taken
    swap
    · cases taken
    rename_i now current result rest found
    have sound := kept.polls _ (before.polls.find_mem number _ found)
    split at taken
    swap
    · cases taken
      exact kept.resume number _ sound.next _ kept.rows
    rename_i deliveries updated
    cases taken
    rw [updateRows_some _ _ updated]
    have moved := kept.resume number _ sound.next _
      (ids_known kept (fun row => decide (row.id = current.id))
        (EmailDelivery.finalized settings now current result)
        (finalized_id))
    refine ⟨moved.rows, moved.raw, fun job member => ?_, ?_⟩
    · have before := moved.polls job member
      exact ⟨before.known, fun claim missing => { before.gone claim missing with }⟩
    intro entry member
    have gone : Gone before entry.1 entry.2 := by
      by_cases missed : result = .payloadUnavailable
      · subst missed
        rcases mem_append.mp member with old | last
        · exact kept.unavailable entry old
        · rw [mem_singleton.mp last]
          exact sound.gone current rfl
      · rw [if_neg missed] at member
        exact kept.unavailable entry member
    exact { gone with }
  | raise number =>
    simp only [step] at taken
    split at taken
    · rename_i now current stage rest found
      cases taken
      have sound := kept.polls _ (before.polls.find_mem number _ found)
      exact kept.resume number _ sound.next _ kept.rows
    · cases taken
      exact kept.finish number
    · cases taken
  | die number =>
    obtain ⟨poll, _, rfl⟩ := map_eq_some_iff.mp taken
    exact kept.finish number

/-- While `ReadsAfterStaging`, a staged email is not thrown away before its payload expires. -/
theorem staged_payload_not_lost (now : Instant) (events : List Event)
    (reads : RunMeets (step decoder settings) ReadsAfterStaging events (.initial now)) :
    AlwaysAlong (step decoder settings) StagedDelivered events (.initial now) :=
  alwaysAlong_of_invariant PayloadsKept StagedDelivered
    (fun _ _ _ kept reads taken =>
      step_payloadsKept decoder settings kept reads taken)
    (fun _ kept entry member => (kept.unavailable entry member).expired)
    ⟨forall_mem_nil _, forall_mem_nil _, forall_mem_nil _, forall_mem_nil _⟩
    reads

end

def expiredRun : List Event :=
  [.enqueue 1 .userActivation "a@example.com".toList 0 [("token".toList, "t".toList)] 3600,
    .stage 0 true, .tick 4000, .beginPoll 4000, .reclaim 0, .claim 0 [] [1], .read 0 true,
    .finalize 0]

theorem staged_payload_not_lost_expired :
    AlwaysAlong (step .coarse .defaults) StagedDelivered expiredRun (.initial 0) ∧
      ((runEvents (step .coarse .defaults) expiredRun (.initial 0)).map fun final =>
        final.unavailable) = some [(1, 4000)] :=
  ⟨staged_payload_not_lost .coarse .defaults 0 expiredRun (by decide +kernel), by decide +kernel⟩

/-- A worker polls between the commit of the row and the staging of its payload. -/
def unstagedRun : List Event :=
  [.enqueue 1 .userActivation "a@example.com".toList 0 [("token".toList, "t".toList)] 3600,
    .beginPoll 0, .reclaim 0, .claim 0 [] [1], .read 0 true, .finalize 0, .stage 0 true]

theorem unstaged_delivery_failed :
    ¬ AlwaysAlong (step .coarse .defaults) StagedDelivered unstagedRun (.initial 0) :=
  not_alwaysAlong StagedDelivered unstagedRun _ (by decide +kernel)

end Nebula.Email
