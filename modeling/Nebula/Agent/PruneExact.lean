import Mathlib.Data.Finset.Card
import Nebula.Agent.XrayWhole

/-!
# What a prune removes

A prune takes away the credentials nobody expects, wherever it finds them: in the record or in a
served file it can read.
-/

namespace Nebula.Agent.XrayCall

open Effects Schema
open List hiding isEmpty_iff

def recordedUuids (clients : Clients) : List Uuid :=
  clients.map RenderedXrayClient.clientUuid

/-- The credentials in the served files; an `http` Hysteria2 config has none. -/
def Host.listed (host : Host) : List Uuid :=
  host.served.xrayConfig.map Prod.snd ++
    match host.settings.hysteriaProfile, host.served.hysteriaConfig with
    | some _, .userpass users => users
    | _, _ => []

def Host.credentials (host : Host) : Finset Uuid :=
  (recordedUuids host.record ++
    if host.readable then host.served.servedPairs.map Prod.snd else []).toFinset

structure Pruned (expected : List Uuid) (host after : Host) (removed : Nat) : Prop where
  record : after.record = survivors expected host.record
  counted : removed = (host.credentials.filter (· ∉ expected)).card
  served : removed = 0 ∧ after = host ∨
    ∀ clientUuid ∈ after.listed, clientUuid ∈ recordedUuids after.record

section

variable {ends : Ends} {desired : Clients} {host after : Host}

theorem applyDelta_serves (ran : (applyDelta ends desired).run host = .ok () after) :
    after.Serves desired := by
  rw [applyDelta_result, applyBoth_result] at ran
  simp only [rolledBack_run] at ran
  split at ran
  · cases ran
  · cases ran
  split at ran
  · cases ran
  split at ran
  swap
  · cases ran
  rename_i both
  cases ran
  repeat' split at both
  all_goals cases both
  · rename_i nothing
    exact ⟨rfl, rfl, nothing⟩
  · rename_i writes _ _ _
    have now := hysteriaWrite_written writes
    exact ⟨rfl, rfl, now⟩

theorem attempt_serves {succeeded failed response : Response} (success : response.success = true)
    (reports : failed.success = false)
    (ran : (attempt ends desired succeeded failed).run host = .ok response after) :
    response = succeeded ∧ after.Serves desired := by
  rw [attempt_result] at ran
  split at ran <;> cases ran
  · exact ⟨rfl, applyDelta_serves ‹_›⟩
  all_goals cases reports.symm.trans success

theorem listed_recorded (serves : host.Serves desired) :
    ∀ clientUuid ∈ host.listed, clientUuid ∈ recordedUuids desired := by
  have own : ∀ code, (clientsFor desired code).map RenderedXrayClient.clientUuid ⊆
      recordedUuids desired := fun code => (filter_sublist.map _).subset
  intro clientUuid member
  rcases mem_append.mp member with inbound | user
  · simp only [Host.served, serves.xray, Host.renderXray, flatMap_map, map_flatMap,
      map_map, mem_flatMap] at inbound
    obtain ⟨code, _, listed⟩ := inbound
    exact own code (by simpa using listed)
  · cases profile : host.settings.hysteriaProfile with
    | none => simp [profile] at user
    | some code =>
      have written := (hysteriaWrite_none host desired code profile).mp serves.hysteria
      simp only [Host.served, profile, written, Host.renderHysteria,
        XraySettings.renderHysteria] at user
      cases live : host.settings.liveClientUpdates with
      | true => simp [live] at user
      | false => exact own code (by simpa [live] using user)

end

section

variable (expected : List Uuid) (host : Host)

theorem mem_credentials {clientUuid : Uuid} (recorded : clientUuid ∈ recordedUuids host.record) :
    clientUuid ∈ host.credentials :=
  mem_toFinset.mpr (mem_append_left _ recorded)

theorem mem_unaccounted (clientUuid : Uuid) :
    clientUuid ∈ host.served.unaccounted host.readable expected ↔
      clientUuid ∈ host.credentials ∧ clientUuid ∉ expected ∧
        clientUuid ∉ recordedUuids host.record := by
  have record : host.served.record = host.record := rfl
  simp only [XrayFiles.unaccounted, Host.credentials, record, recordedUuids, mem_toFinset]
  cases host.readable <;> simp <;> tauto

theorem removed_eq (distinct : (recordedUuids host.record).Nodup) :
    host.record.length - (survivors expected host.record).length +
        (host.served.unaccounted host.readable expected).length =
      (host.credentials.filter (· ∉ expected)).card := by
  have dropped : host.record.length - (survivors expected host.record).length =
      ((recordedUuids host.record).filter (· ∉ expected)).toFinset.card := by
    have parts := length_eq_length_filter_add
      (fun client : RenderedXrayClient => expected.contains client.clientUuid) (l := host.record)
    rw [toFinset_card_of_nodup (distinct.filter _)]
    simp only [survivors, recordedUuids, filter_map, length_map, Function.comp_def,
      contains_eq_mem, decide_not] at parts ⊢
    omega
  have once : (host.served.unaccounted host.readable expected).Nodup := by
    unfold XrayFiles.unaccounted
    split
    · exact nodup_dedup _
    · exact nodup_nil
  rw [dropped, ← toFinset_card_of_nodup once, ← Finset.card_union_of_disjoint]
  · congr 1
    ext clientUuid
    have known := @mem_credentials host clientUuid
    simp only [Finset.mem_union, mem_toFinset, mem_filter, decide_eq_true_eq,
      mem_unaccounted, Finset.mem_filter]
    tauto
  · refine Finset.disjoint_left.mpr fun clientUuid recorded other => ?_
    rw [mem_toFinset, mem_unaccounted] at other
    exact other.2.2 (mem_of_mem_filter (mem_toFinset.mp recorded))

theorem nothingToPrune_of_expected
    (all : ∀ clientUuid ∈ host.credentials, clientUuid ∈ expected) :
    host.nothingToPrune expected = true := by
  have kept : survivors expected host.record = host.record :=
    filter_eq_self.mpr fun client member => by
      simpa using all _ (mem_credentials host (mem_map_of_mem member))
  simp only [Host.nothingToPrune, kept, decide_true, Bool.true_and, List.isEmpty_iff,
    eq_nil_iff_forall_not_mem, mem_unaccounted]
  exact fun clientUuid other => other.2.1 (all clientUuid other.1)

/-- A prune removes and counts what nobody expects and leaves nothing served that is not recorded;
where everybody is expected it touches nothing. -/
theorem prune_exact (distinct : (recordedUuids host.record).Nodup) :
    (∀ ends removed kept after,
      (performPrune ends expected).run host = .ok (.pruned removed kept) after →
        Pruned expected host after removed) ∧
      ((∀ clientUuid ∈ host.credentials, clientUuid ∈ expected) → ∀ ends,
        (performPrune ends expected).run host = .ok (.pruned 0 host.record.length) host) := by
  have counted := removed_eq expected host distinct
  refine ⟨fun ends removed kept after ran => ?_, fun all ends => ?_⟩
  swap
  · have nothing := nothingToPrune_of_expected expected host all
    simp [performPrune, nothing, survivors_nothingToPrune nothing]
  by_cases nothing : host.nothingToPrune expected = true
  · have same := survivors_nothingToPrune nothing
    simp only [performPrune, run_bind, run_get, nothing, if_true, run_pure] at ran
    cases ran
    refine ⟨same.symm, ?_, Or.inl ⟨rfl, rfl⟩⟩
    simp_all [Host.nothingToPrune]
  · simp only [performPrune, run_bind, run_get, nothing] at ran
    obtain ⟨same, serves⟩ := attempt_serves rfl rfl ran
    cases same
    refine ⟨serves.record, counted, Or.inr ?_⟩
    rw [serves.record]
    exact listed_recorded serves

end

def handWritten : Host :=
  { quietHost with record := [⟨8, 1, 1⟩], xrayConfig := .config ['x'] [(1, [7, 8])] }

theorem prune_exact_handWritten :
    Pruned [8] handWritten { handWritten with xrayConfig := .config ['x'] [(1, [8])] } 1 :=
  (prune_exact [8] handWritten (by decide)).1 { restartKilled with reload := .succeeded } 1 1 _ rfl

/-- A client that is expected stays served, though it is not recorded; where another client is
pruned, both are gone and one is counted. -/
theorem prune_leaves_handWritten :
    (performPrune restartKilled [7, 8]).run handWritten = .ok (.pruned 0 1) handWritten ∧
      7 ∈ handWritten.listed ∧ 7 ∉ recordedUuids handWritten.record ∧
      handWritten.credentials = {7, 8} ∧
      ∃ after, (performPrune { restartKilled with reload := .succeeded } [7]).run handWritten =
        .ok (.pruned 1 0) after ∧ after.credentials = ∅ :=
  ⟨rfl, by decide, by decide, by decide, _, rfl, by decide⟩

end Nebula.Agent.XrayCall
