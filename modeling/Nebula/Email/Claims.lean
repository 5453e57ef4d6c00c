import Nebula.Email.Outbox

/-!
# Final deliveries

A worker finalises by id, whatever the row has become since its claim. While no lease is taken back
from a poll still at work on the delivery, a claimed row is in nobody else's hands: it is `sending`,
with the attempts it had, so what is put down is put down on a delivery that is not final.
-/

namespace Nebula.Email

open Schema Store Json Runs Work List

def DeliveryState.isFinal (state : DeliveryState) : Bool :=
  decide (state = .sent ∨ state = .failed)

def Event.deletes : Event → List Uuid
  | .delete ids => ids
  | _ => []

/-- Final deliveries stay as they are, and no count of attempts is over the maximum. -/
def FinalKept (settings : Settings) (before : State) (event : Event) (after : State) : Prop :=
  (∀ row ∈ before.deliveries, row.state.isFinal = true →
    (row.id ∈ event.deletes ∨ ∃ kept ∈ after.deliveries, kept.id = row.id) ∧
      ∀ kept ∈ after.deliveries, kept.id = row.id → kept.state = row.state) ∧
    ∀ row ∈ after.deliveries, row.attemptCount ≤ settings.maxAttempts
  deriving Decidable

def State.claims (state : State) : List ClaimedDelivery :=
  state.polls.jobs.flatMap fun job => job.2.claims

/-- No lease is taken back from a poll still at work on the delivery. -/
def LeasesIdle (state : State) : Event → Prop
  | .reclaim number =>
    match state.polls.find number with
    | some (.begun now) =>
      ∀ row ∈ state.deliveries, leaseExpired now row = true →
        ∀ claim ∈ state.claims, claim.id ≠ row.id
    | _ => True
  | _ => True

instance (state : State) (event : Event) : Decidable (LeasesIdle state event) := by
  unfold LeasesIdle
  split
  · split <;> infer_instance
  · infer_instance

def EmailDelivery.WithinAttempts (settings : Settings) (row : EmailDelivery) : Prop :=
  row.attemptCount ≤ settings.maxAttempts ∧
    (row.state = .pending ∨ row.state = .sending → row.attemptCount < settings.maxAttempts)

structure Held (settings : Settings) (state : State) : Prop where
  numbered : state.polls.Numbered
  distinct : (state.deliveries.map EmailDelivery.id).Nodup
  known : ∀ row ∈ state.deliveries, row.id ∈ state.known
  own : ∀ job ∈ state.polls.jobs, (job.2.claims.map ClaimedDelivery.id).Nodup
  apart : ∀ one ∈ state.polls.jobs, ∀ other ∈ state.polls.jobs, one.1 ≠ other.1 →
    ∀ claim ∈ one.2.claims, ∀ another ∈ other.2.claims, claim.id ≠ another.id
  named : ∀ job ∈ state.polls.jobs, ∀ claim ∈ job.2.claims, claim.id ∈ state.known
  held : ∀ job ∈ state.polls.jobs, ∀ claim ∈ job.2.claims, ∀ row ∈ state.deliveries,
    row.id = claim.id → row.state = .sending ∧ row.attemptCount = claim.attemptCount
  attempts : ∀ row ∈ state.deliveries, row.WithinAttempts settings

section

variable {settings : Settings} {state : State}

variable (holds : Held settings state)
include holds

theorem Held.moved (number : Nat) (next : Option Poll)
    (own : ∀ later ∈ next, (later.claims.map ClaimedDelivery.id).Nodup)
    (apart : ∀ later ∈ next, ∀ other ∈ state.polls.jobs, number ≠ other.1 →
      ∀ claim ∈ later.claims, ∀ another ∈ other.2.claims, claim.id ≠ another.id)
    (named : ∀ later ∈ next, ∀ claim ∈ later.claims, claim.id ∈ state.known)
    (held : ∀ later ∈ next, ∀ claim ∈ later.claims, ∀ row ∈ state.deliveries,
      row.id = claim.id → row.state = .sending ∧ row.attemptCount = claim.attemptCount) :
    Held settings (state.resumePoll number next) := by
  refine ⟨?_, holds.distinct, holds.known, Pool.forall_resume holds.own own, ?_,
    Pool.forall_resume holds.named named,
    Pool.forall_resume holds.held held, holds.attempts⟩
  · cases next with
    | none => exact state.polls.numbered_finish holds.numbered
    | some later => exact state.polls.numbered_goOn holds.numbered
  intro one oneMember other otherMember differ claim inOne another inOther
  rcases state.polls.mem_resume number oneMember with ⟨oldOne, apartOne⟩ | ⟨same, goes⟩
  · rcases state.polls.mem_resume number otherMember with ⟨oldOther, _⟩ | ⟨_, goes⟩
    · exact holds.apart one oldOne other oldOther differ claim inOne another inOther
    · exact (apart other.2 goes one oldOne apartOne.symm another inOther claim inOne).symm
  · rcases state.polls.mem_resume number otherMember with ⟨old, apartOther⟩ | ⟨at_, _⟩
    · exact apart one.2 goes other old apartOther.symm claim inOne another inOther
    · exact absurd (same.trans at_.symm) differ

theorem Held.resume (number : Nat) (poll : Poll) (next : Option Poll)
    (found : state.polls.find number = some poll)
    (less : ∀ later, next = some later → later.claims.Sublist poll.claims) :
    Held settings (state.resumePoll number next) := by
  have present := state.polls.find_mem number poll found
  refine holds.moved number next ?_ ?_ ?_ ?_
  · exact fun later goes => ((less later goes).map _).nodup (holds.own _ present)
  · exact fun later goes other member differ claim among =>
      holds.apart _ present other member differ claim ((less later goes).subset among)
  · exact fun later goes claim among =>
      holds.named _ present claim ((less later goes).subset among)
  · exact fun later goes claim among =>
      holds.held _ present claim ((less later goes).subset among)

theorem Held.finish (number : Nat) (poll : Poll)
    (found : state.polls.find number = some poll) :
    Held settings (state.resumePoll number none) := by
  refine holds.resume number poll none found ?_
  intro later none
  cases none

theorem Held.goOn (number : Nat) (poll later : Poll)
    (found : state.polls.find number = some poll) (same : later.claims = poll.claims) :
    Held settings (state.resumePoll number (some later)) := by
  refine holds.resume number poll (some later) found ?_
  intro next goes
  rw [← Option.some.inj goes, same]

theorem Held.update (selected : EmailDelivery → Bool)
    (write : EmailDelivery → EmailDelivery) (sameId : ∀ row, (write row).id = row.id)
    (free : ∀ row ∈ state.deliveries, selected row = true →
      ∀ job ∈ state.polls.jobs, ∀ claim ∈ job.2.claims, claim.id ≠ row.id)
    (within : ∀ row ∈ state.deliveries, selected row = true → (write row).WithinAttempts settings) :
    Held settings { state with deliveries := updateWhere selected write state.deliveries } := by
  refine ⟨holds.numbered, ?_, ?_, holds.own, holds.apart, holds.named, ?_, ?_⟩
  · rw [map_updateWhere selected write EmailDelivery.id sameId]
    exact holds.distinct
  · intro row member
    obtain ⟨old, among, ⟨_, rfl⟩ | ⟨_, rfl⟩⟩ := mem_updateWhere _ _ member
    · rw [sameId]
      exact holds.known old among
    · exact holds.known row among
  · intro job jobMember claim inJob row member named
    obtain ⟨old, among, ⟨chosen, rfl⟩ | ⟨_, rfl⟩⟩ := mem_updateWhere _ _ member
    · rw [sameId] at named
      exact absurd named.symm (free old among chosen job jobMember claim inJob)
    · exact holds.held job jobMember claim inJob row among named
  · intro row member
    obtain ⟨old, among, ⟨chosen, rfl⟩ | ⟨_, rfl⟩⟩ := mem_updateWhere _ _ member
    · exact within old among chosen
    · exact holds.attempts row among

omit holds

variable {row : EmailDelivery}

theorem reclaimed_withinAttempts (now : Instant)
    (within : row.WithinAttempts settings) (leased : row.state = .sending) :
    (row.reclaimed settings now).WithinAttempts settings := by
  have left := within.2 (Or.inr leased)
  refine ⟨left, ?_⟩
  intro again
  simp only [EmailDelivery.reclaimed] at again ⊢
  split at again
  · rcases again with pending | sending
    · cases pending
    · cases sending
  · omega

variable {now : Instant}

theorem finalized_withinAttempts {claimed : ClaimedDelivery}
    {result : ResultCode} (within : row.WithinAttempts settings) (leased : row.state = .sending)
    (same : row.attemptCount = claimed.attemptCount) :
    (row.finalized settings now claimed result).WithinAttempts settings := by
  have left := within.2 (Or.inr leased)
  unfold EmailDelivery.finalized
  split
  · exact ⟨left, by rintro (pending | sending) <;> contradiction⟩
  split
  · exact ⟨left, by rintro (pending | sending) <;> contradiction⟩
  refine ⟨left, fun _ => ?_⟩
  show row.attemptCount + 1 < settings.maxAttempts
  omega

theorem finalized_id {claimed : ClaimedDelivery} {result : ResultCode}
    (row : EmailDelivery) : (row.finalized settings now claimed result).id = row.id := by
  unfold EmailDelivery.finalized
  split
  · rfl
  · split <;> rfl

theorem Held.row_eq (holds : Held settings state) {other : EmailDelivery}
    (member : row ∈ state.deliveries) (otherMember : other ∈ state.deliveries)
    (same : row.id = other.id) : row = other :=
  inj_on_of_nodup_map holds.distinct member otherMember same

theorem Poll.claims_next {claims : List ClaimedDelivery} {poll : Poll}
    (next : Poll.next now claims = some poll) : poll.claims = claims := by
  cases claims with
  | nil => cases next
  | cons current rest =>
    cases next
    rfl

theorem Held.next (holds : Held settings state) {number : Nat}
    {current : ClaimedDelivery} {stage : Stage} {rest : List ClaimedDelivery}
    (found : state.polls.find number = some (.delivering now current stage rest)) :
    Held settings (state.resumePoll number (Poll.next now rest)) := by
  refine holds.resume number _ _ found ?_
  intro later next
  rw [Poll.claims_next next]
  exact sublist_cons_self current rest

theorem lookups_ids {rows : List EmailDelivery} {chosen : List Uuid}
    (present : ∀ id ∈ chosen, ∃ row ∈ rows, row.id = id) :
    (chosen.filterMap fun id => lookup EmailDelivery.id id rows).map EmailDelivery.id = chosen := by
  induction chosen with
  | nil => rfl
  | cons id rest ih =>
    obtain ⟨row, member, named⟩ := present id mem_cons_self
    obtain ⟨found, at_⟩ := lookup_isSome_of_mem id rows member named
    have own := (lookup_mem at_).2
    rw [filterMap_cons, at_, map_cons, own,
      ih fun other among => present other (mem_cons_of_mem _ among)]

theorem Held.claim (holds : Held settings state) (number : Nat) (now : Instant)
    (locked chosen : List Uuid)
    (claims : Claims settings now state.deliveries locked chosen) :
    Held settings { state.resumePoll number (Poll.next now
        ((chosen.filterMap fun id => lookup EmailDelivery.id id state.deliveries).map
          EmailDelivery.asClaimed)) with
      deliveries := updateWhere (fun row => decide (row.id ∈ chosen))
        (EmailDelivery.claimed settings now) state.deliveries } := by
  obtain ⟨distinct, _, available, _⟩ := claims
  -- A row that is claimed now is pending, so no poll has it.
  have pending : ∀ row ∈ state.deliveries, row.id ∈ chosen → row.state = .pending := by
    intro row member among
    obtain ⟨other, otherMember, same, open_⟩ := available row.id among
    rw [holds.row_eq member otherMember same.symm]
    simp only [claimable, Bool.and_eq_true, decide_eq_true_eq] at open_
    exact open_.1
  have free : ∀ job ∈ state.polls.jobs, ∀ claim ∈ job.2.claims, claim.id ∉ chosen := by
    intro job member claim inJob among
    obtain ⟨row, rowMember, same, _⟩ := available claim.id among
    have leased := (holds.held job member claim inJob row rowMember same).1
    rw [pending row rowMember (same ▸ among)] at leased
    cases leased
  have taken : ∀ claim ∈ (chosen.filterMap fun id =>
        lookup EmailDelivery.id id state.deliveries).map EmailDelivery.asClaimed,
      ∃ row ∈ state.deliveries, row.id ∈ chosen ∧ claim = row.asClaimed := by
    intro claim member
    obtain ⟨row, among, rfl⟩ := mem_map.mp member
    obtain ⟨id, inChosen, at_⟩ := mem_filterMap.mp among
    obtain ⟨rowMember, same⟩ := lookup_mem at_
    exact ⟨row, rowMember, same ▸ inChosen, rfl⟩
  have ids : (((chosen.filterMap fun id => lookup EmailDelivery.id id state.deliveries).map
      EmailDelivery.asClaimed).map ClaimedDelivery.id) = chosen := by
    rw [map_map]
    exact lookups_ids fun id among =>
      (available id among).imp fun row shown => ⟨shown.1, shown.2.1⟩
  -- The rows are leased first, and then the poll goes on with them.
  have leased := holds.update (fun row => decide (row.id ∈ chosen))
    (EmailDelivery.claimed settings now) (fun _ => rfl)
    (fun row _ selected job jobMember claim inJob same =>
      free job jobMember claim inJob (same ▸ of_decide_eq_true selected))
    (fun row member selected => by
      have left := (holds.attempts row member).2
        (Or.inl (pending row member (of_decide_eq_true selected)))
      exact ⟨Nat.le_of_lt left, fun _ => left⟩)
  refine leased.moved number _ ?_ ?_ ?_ ?_ <;> intro later goes <;>
    rw [Poll.claims_next goes]
  · rw [ids]
    exact distinct
  · intro other member _ claim inNew another inOther same
    obtain ⟨row, _, among, rfl⟩ := taken claim inNew
    exact free other member another inOther (same ▸ among)
  · intro claim inNew
    obtain ⟨row, rowMember, _, rfl⟩ := taken claim inNew
    exact holds.known row rowMember
  · intro claim inNew row rowMember named
    obtain ⟨source, sourceMember, inChosen, rfl⟩ := taken claim inNew
    obtain ⟨old, among, ⟨_, rfl⟩ | ⟨passed, rfl⟩⟩ := mem_updateWhere _ _ rowMember
    · rw [holds.row_eq among sourceMember named]
      exact ⟨rfl, rfl⟩
    · exact absurd (named ▸ inChosen) (of_decide_eq_false passed)

end

section

variable (decoder : Decoder) (settings : Settings)

theorem updateRows_some (selected : EmailDelivery → Bool) (write : EmailDelivery → EmailDelivery)
    {rows after : List EmailDelivery} (updated : updateRows selected write rows = some after) :
    after = updateWhere selected write rows := by
  obtain ⟨_, updated⟩ := Option.ite_none_right_eq_some.mp updated
  exact (Option.some.inj updated).symm

inductive RowStep (before : List EmailDelivery) (event : Event) : List EmailDelivery → Prop
  | same : RowStep before event before
  | rewritten (selected : EmailDelivery → Bool) (write : EmailDelivery → EmailDelivery)
    (sameId : ∀ row, (write row).id = row.id)
    (unfinished : ∀ row ∈ before, selected row = true → row.state.isFinal = false) :
    RowStep before event (updateWhere selected write before)
  | added (row : EmailDelivery) (new : ∀ old ∈ before, old.id ≠ row.id) :
    RowStep before event (before ++ [row])
  | deleted : RowStep before event (before.filter fun row => decide (row.id ∉ event.deletes))

theorem step_held {before after : State} {event : Event} (holds : Held settings before)
    (idle : LeasesIdle before event) (taken : step decoder settings before event = some after) :
    Held settings after ∧ RowStep before.deliveries event after.deliveries := by
  cases event with
  | tick later =>
    obtain ⟨_, taken⟩ := Option.ite_none_right_eq_some.mp taken
    cases taken
    exact ⟨{ holds with }, .same⟩
  | enqueue id templateCode recipientAddress availableAt payload ttlSeconds =>
    obtain ⟨fresh, taken⟩ := Option.ite_none_left_eq_some.mp taken
    cases taken
    have new : ∀ old ∈ before.deliveries, old.id ≠ id := by
      rintro old member rfl
      exact fresh (holds.known old member)
    refine ⟨⟨holds.numbered, nodup_added holds.distinct new, ?_, holds.own, holds.apart, ?_,
      ?_, ?_⟩, .added _ new⟩
    · exact forall_mem_added (fun row old => mem_append_left _ (holds.known row old))
        (mem_append_right _ mem_cons_self)
    · exact fun job member claim inJob =>
        mem_append_left _ (holds.named job member claim inJob)
    · refine fun job member claim inJob =>
        forall_mem_added (holds.held job member claim inJob) fun named => ?_
      have known := holds.named job member claim inJob
      rw [← named] at known
      exact absurd known fresh
    · exact forall_mem_added holds.attempts ⟨Nat.zero_le _, fun _ => settings.maxAttempts_pos⟩
  | stage | abandonStaging =>
    obtain ⟨staging, _, rfl⟩ := Option.map_eq_some_iff.mp taken
    exact ⟨{ holds with }, .same⟩
  | delete ids =>
    cases taken
    have sub : ∀ row ∈ before.deliveries.filter (fun row => decide (row.id ∉ ids)),
        row ∈ before.deliveries := fun row member => mem_of_mem_filter member
    exact ⟨⟨holds.numbered, holds.distinct.sublist (filter_sublist.map _),
      fun row member => holds.known row (sub row member), holds.own, holds.apart, holds.named,
      fun job member claim inJob row rowMember =>
        holds.held job member claim inJob row (sub row rowMember),
      fun row member => holds.attempts row (sub row member)⟩, .deleted⟩
  | beginPoll clock =>
    cases taken
    refine ⟨⟨before.polls.numbered_begin holds.numbered, holds.distinct, holds.known,
      Pool.forall_begin holds.own nodup_nil, ?_,
      Pool.forall_begin holds.named (forall_mem_nil _),
      Pool.forall_begin holds.held (forall_mem_nil _), holds.attempts⟩, .same⟩
    refine Pool.forall_begin (fun one member => Pool.forall_begin (holds.apart one member) ?_) ?_
    · exact fun _ _ _ => forall_mem_nil _
    · exact fun _ _ _ => forall_mem_nil _
  | reclaim number =>
    simp only [step] at taken
    split at taken
    swap
    · cases taken
    rename_i now found
    split at taken
    swap
    · cases taken
      exact ⟨holds.finish number _ found, .same⟩
    rename_i deliveries updated
    cases taken
    have rows := updateRows_some _ _ updated
    have expired : ∀ row ∈ before.deliveries, leaseExpired now row = true →
        row.state = .sending := by
      intro row _ late
      simp only [leaseExpired, Bool.and_eq_true, decide_eq_true_eq] at late
      exact late.1
    have free : ∀ row ∈ before.deliveries, leaseExpired now row = true →
        ∀ claim ∈ before.claims, claim.id ≠ row.id := by
      simpa [LeasesIdle, found] using idle
    have moved := holds.goOn number _ (.reclaimed now) found rfl
    subst rows
    refine ⟨moved.update _ _ (fun _ => rfl) ?_ ?_, .rewritten _ _ (fun _ => rfl) ?_⟩
    · intro row member late job jobMember claim inJob
      rcases before.polls.mem_resume number jobMember with ⟨old, _⟩ | ⟨_, goes⟩
      · exact free row member late claim (mem_flatMap.mpr ⟨job, old, inJob⟩)
      · rw [← Option.some.inj goes] at inJob
        cases inJob
    · intro row member late
      exact reclaimed_withinAttempts now (holds.attempts row member) (expired row member late)
    · intro row member late
      rw [expired row member late]
      rfl
  | claim number locked chosen =>
    simp only [step] at taken
    split at taken
    swap
    · cases taken
    rename_i now found
    obtain ⟨claims, taken⟩ := Option.ite_none_right_eq_some.mp taken
    cases taken
    refine ⟨holds.claim number now locked chosen claims, .rewritten _ _ (fun _ => rfl) ?_⟩
    intro row member among
    rw [decide_eq_true_eq] at among
    obtain ⟨other, otherMember, same, open_⟩ := claims.2.2.1 row.id among
    rw [holds.row_eq member otherMember same.symm]
    simp only [claimable, Bool.and_eq_true, decide_eq_true_eq] at open_
    rw [open_.1]
    rfl
  | read number answers =>
    simp only [step] at taken
    split at taken
    · rename_i now current rest found
      cases taken
      exact ⟨holds.goOn number _ (.delivering now current _ rest) found rfl, .same⟩
    · cases taken
  | send number outcome =>
    simp only [step] at taken
    split at taken
    · rename_i now current rest found
      cases taken
      cases outcome with
      | accepted | sendError => exact ⟨holds.goOn number _ _ found rfl, .same⟩
      | raised => exact ⟨holds.next found, .same⟩
    · cases taken
  | finalize number =>
    simp only [step] at taken
    split at taken
    swap
    · cases taken
    rename_i now current result rest found
    have moved := holds.next found
    have present := before.polls.find_mem number _ found
    have mine : ∀ row ∈ before.deliveries, row.id = current.id →
        row.state = .sending ∧ row.attemptCount = current.attemptCount :=
      holds.held _ present current mem_cons_self
    split at taken
    swap
    · cases taken
      exact ⟨moved, .same⟩
    rename_i deliveries updated
    cases taken
    have rows := updateRows_some _ _ updated
    subst rows
    refine ⟨{ moved.update (fun row => decide (row.id = current.id))
        (EmailDelivery.finalized settings now current result)
        (finalized_id) ?_ ?_ with },
      .rewritten _ _ (finalized_id) ?_⟩
    · intro row member selected job jobMember claim inJob
      rw [decide_eq_true_eq] at selected
      rw [selected]
      rcases before.polls.mem_resume number jobMember with ⟨old, other⟩ | ⟨_, goes⟩
      · exact holds.apart job old _ present other claim inJob current mem_cons_self
      rw [Poll.claims_next goes] at inJob
      have once := holds.own _ present
      have first := (nodup_cons.mp once).1
      intro same
      exact first (same ▸ mem_map_of_mem inJob)
    · intro row member selected
      rw [decide_eq_true_eq] at selected
      obtain ⟨leased, same⟩ := mine row member selected
      exact finalized_withinAttempts (holds.attempts row member) leased same
    · intro row member selected
      rw [decide_eq_true_eq] at selected
      rw [(mine row member selected).1]
      rfl
  | raise number =>
    simp only [step] at taken
    split at taken
    · rename_i now current stage rest found
      cases taken
      exact ⟨holds.next found, .same⟩
    · rename_i poll _ found
      cases taken
      exact ⟨holds.finish number poll found, .same⟩
    · cases taken
  | die number =>
    obtain ⟨poll, found, rfl⟩ := Option.map_eq_some_iff.mp taken
    exact ⟨holds.finish number poll found, .same⟩

theorem rowStep_keeps {before after : List EmailDelivery} {event : Event}
    (distinct : (before.map EmailDelivery.id).Nodup) (rows : RowStep before event after)
    {row : EmailDelivery} (member : row ∈ before) (final : row.state.isFinal = true) :
    (row.id ∈ event.deletes ∨ ∃ kept ∈ after, kept.id = row.id) ∧
      ∀ kept ∈ after, kept.id = row.id → kept.state = row.state := by
  have unique : ∀ other ∈ before, other.id = row.id → other = row := fun other among same =>
    inj_on_of_nodup_map distinct among member same
  cases rows with
  | same =>
    refine ⟨Or.inr ⟨row, member, rfl⟩, ?_⟩
    intro kept among same
    rw [unique kept among same]
  | rewritten selected write sameId unfinished =>
    have passed : selected row = false := by
      by_contra chosen
      rw [unfinished row member (by simpa using chosen)] at final
      cases final
    refine ⟨Or.inr ⟨row, mem_map.mpr ⟨row, member, if_neg (by simp [passed])⟩, rfl⟩, ?_⟩
    intro kept among same
    obtain ⟨old, inBefore, ⟨chosen, rfl⟩ | ⟨_, rfl⟩⟩ := mem_updateWhere _ _ among
    · rw [sameId] at same
      rw [unique old inBefore same, passed] at chosen
      cases chosen
    · rw [unique kept inBefore same]
  | added added new =>
    refine ⟨Or.inr ⟨row, mem_append_left _ member, rfl⟩, ?_⟩
    intro kept among same
    rcases mem_append.mp among with old | last
    · rw [unique kept old same]
    · rw [mem_singleton.mp last] at same
      exact absurd same.symm (new row member)
  | deleted =>
    constructor
    · by_cases gone : row.id ∈ event.deletes
      · exact Or.inl gone
      · exact Or.inr ⟨row, mem_filter.mpr ⟨member, by simpa using gone⟩, rfl⟩
    · intro kept among same
      rw [unique kept (mem_of_mem_filter among) same]

/-- While `LeasesIdle`, what is sent or failed stays so, within the maximum of attempts. -/
theorem final_deliveries_kept (now : Instant) (events : List Event)
    (idle : RunMeets (step decoder settings) LeasesIdle events (.initial now)) :
    EachStep (step decoder settings) (FinalKept settings) events (.initial now) := by
  refine eachStep_of_invariant (Held settings)
    ?_ ?_ (⟨Pool.numbered_empty, nodup_nil, forall_mem_nil _,
        forall_mem_nil _, forall_mem_nil _, forall_mem_nil _, forall_mem_nil _,
        forall_mem_nil _⟩) idle
  · intro before event after holds idle taken
    exact (step_held decoder settings holds idle taken).1
  intro before event after holds idle taken
  obtain ⟨still, rows⟩ := step_held decoder settings holds idle taken
  refine ⟨fun row member final => rowStep_keeps holds.distinct rows member final, ?_⟩
  exact fun row member => (still.attempts row member).1

end

def claimedRun : List Event :=
  [.enqueue 1 .userActivation "a@example.com".toList 0 [("token".toList, "t".toList)] 3600,
    .stage 0 true, .beginPoll 0, .reclaim 0, .claim 0 [] [1], .read 0 true]

def retriedRun : List Event :=
  claimedRun ++ [.send 0 .sendError, .finalize 0, .beginPoll 61, .reclaim 1, .claim 1 [] [1],
    .read 1 true, .send 1 .accepted, .finalize 1, .beginPoll 200, .reclaim 2, .claim 2 [] []]

theorem final_deliveries_kept_retried :
    EachStep (step .coarse .defaults) (FinalKept .defaults) retriedRun (.initial 0) ∧
      ((runEvents (step .coarse .defaults) retriedRun (.initial 0)).map fun final =>
        final.deliveries.map fun row => (row.state, row.attemptCount)) = some [(.sent, 2)] :=
  ⟨final_deliveries_kept .coarse .defaults 0 retriedRun (by decide +kernel), by decide +kernel⟩

/-- The first poll's lease expires, a second sends the message, then the first finds that it could
not. -/
def overtakenRun : List Event :=
  claimedRun ++ [.beginPoll 61, .reclaim 1, .claim 1 [] [1], .read 1 true, .send 1 .accepted,
    .finalize 1, .send 0 .sendError]

theorem sent_delivery_rescheduled :
    ¬ EachStep (step .coarse .defaults) (FinalKept .defaults) (overtakenRun ++ [.finalize 0])
      (.initial 0) :=
  not_eachStep (step .coarse .defaults)
    (by decide +kernel)

end Nebula.Email
