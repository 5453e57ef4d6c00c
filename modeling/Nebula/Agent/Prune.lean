import Mathlib.Data.List.Dedup
import Nebula.Agent.Xray

/-!
# Pruning an agent's clients

`_prune_clients` of `drivers/xray.py`: of the recorded clients those that the control plane names
are applied as one change, under the lock. The served files are only looked at to find a reason to
apply; they are rendered from the record, so what they list beyond it goes as well.
-/

namespace Nebula.Agent

open Schema ControlPlane List

def survivors (expected : List Uuid) (current : Clients) :
    Clients :=
  current.filter fun client => expected.contains client.clientUuid

def XraySettings.codes (settings : XraySettings) : List ProfileCode :=
  settings.inbounds ++ settings.hysteriaProfile.toList

def XrayFiles.servedPairs (files : XrayFiles) : List (ProfileCode × Uuid) :=
  files.settings.codes.flatMap fun code =>
    (files.servedClients code).map fun clientUuid => (code, clientUuid)

def clientPairs (clients : Clients) : List (ProfileCode × Uuid) :=
  clients.map fun client => (client.protocolProfileCode, client.clientUuid)

/-- `_unaccounted_live_uuids`; a file that cannot be read counts as listing nobody. -/
def XrayFiles.unaccounted (files : XrayFiles) (readable : Bool) (expected : List Uuid) :
    List Uuid :=
  if readable then
    ((files.servedPairs.map Prod.snd).filter fun clientUuid =>
      !expected.contains clientUuid &&
        !(files.record.map RenderedXrayClient.clientUuid).contains clientUuid).dedup
  else []

structure PruneRead where
  current : Clients
  unaccounted : Nat
  deriving DecidableEq

inductive PrunePhase where
  | locking
  | validating (read : PruneRead)
  | applying (read : PruneRead)
  | applyingHysteria (read : PruneRead)
  | kicking (read : PruneRead)
  | rollingBack (read : PruneRead)
  | rollingBackHysteria (read : PruneRead)
  deriving DecidableEq

def PrunePhase.holdsLock : PrunePhase → Bool
  | .locking => false
  | _ => true

/-- `PruneXrayClientsResponse`; `raised` is an answer without one. -/
inductive PruneAnswer where
  | pruned (removed kept : Nat)
  | failed (kept : Nat)
  | raised
  deriving DecidableEq

inductive PruneOutcome where
  | goesOn (phase : PrunePhase)
  | answers (answer : PruneAnswer)

section

variable (expected : List Uuid)

def PruneRead.failed (read : PruneRead) : PruneAnswer :=
  .failed read.current.length

def PruneRead.pruned (read : PruneRead) : PruneAnswer :=
  let kept := (survivors expected read.current).length
  .pruned (read.current.length - kept + read.unaccounted) kept

def pruneBegin (files : XrayFiles) (readable : Bool) : PruneOutcome :=
  let kept := survivors expected files.record
  let unaccounted := files.unaccounted readable expected
  if files.record.length = kept.length ∧ unaccounted = [] then .answers (.pruned 0 kept.length)
  else .goesOn (.validating ⟨files.record, unaccounted.length⟩)

/-- `_prune_clients`, `_apply_delta` and `_rollback`, step by step. -/
def pruneStep (files : XrayFiles) (readable : Bool) :
    PrunePhase → XrayEvent → Option (XrayFiles × PruneOutcome)
  | .locking, .lockAcquired => some (files, pruneBegin expected files readable)
  | .validating read, .validated =>
    some (files.writeXray (survivors expected read.current), .goesOn (.applying read))
  | .validating read, .invalid => some (files, .answers read.failed)
  | .applying read, .applied =>
    match files.hysteriaWrite (survivors expected read.current) with
    | none =>
      some ({ files with record := survivors expected read.current }, .goesOn (.kicking read))
    | some config =>
      some ({ files with hysteriaConfig := config }, .goesOn (.applyingHysteria read))
  | .applyingHysteria read, .applied =>
    some ({ files with record := survivors expected read.current }, .goesOn (.kicking read))
  | .applying read, .applyFailed
  | .applyingHysteria read, .applyFailed =>
    some (files.writeXray files.record, .goesOn (.rollingBack read))
  | .rollingBack read, .applied =>
    match files.hysteriaWrite files.record with
    | none => some (files, .answers read.failed)
    | some config =>
      some ({ files with hysteriaConfig := config }, .goesOn (.rollingBackHysteria read))
  | .rollingBackHysteria read, .applied => some (files, .answers read.failed)
  | .kicking read, .kicked => some (files, .answers (read.pruned expected))
  | .rollingBack _, .rollbackFailed
  | .rollingBackHysteria _, .rollbackFailed
  | .validating _, .timedOut
  | .applying _, .timedOut
  | .applyingHysteria _, .timedOut
  | .rollingBack _, .timedOut
  | .rollingBackHysteria _, .timedOut => some (files, .answers .raised)
  | _, _ => none

end

def PrunePhase.current : PrunePhase → Option Clients
  | .validating read | .applying read | .applyingHysteria read => some read.current
  | _ => none

/-- Each of the three files is as it was or follows the clients that are applied. -/
structure Applied (files after : XrayFiles) (clients : Clients) : Prop where
  settings : after.settings = files.settings
  record : after.record = files.record ∨ after.record = clients
  xray : after.xrayConfig = files.xrayConfig ∨
    after.xrayConfig = files.settings.renderXray clients
  hysteria : after.hysteriaConfig = files.hysteriaConfig ∨
    ∃ code, files.settings.hysteriaProfile = some code ∧
      after.hysteriaConfig = files.settings.renderHysteria code clients

inductive PruneStep (expected : List Uuid) (files : XrayFiles) (readable : Bool) :
    PrunePhase → XrayEvent → XrayFiles → PruneOutcome → Prop
  | locked :
    PruneStep expected files readable .locking .lockAcquired files
      (pruneBegin expected files readable)
  | applies (phase : PrunePhase) (event : XrayEvent) (current : Clients)
    (after : XrayFiles) (following : PrunePhase) (reads : phase.current = some current)
    (applied : Applied files after (survivors expected current))
    (locks : following.holdsLock = true)
    (keeps : following.current = none ∨
      following.current = some current ∧ after.record = files.record) :
    PruneStep expected files readable phase event after (.goesOn following)
  | rollsBack (phase : PrunePhase) (event : XrayEvent) (after : XrayFiles)
    (following : PrunePhase) (holds : phase.holdsLock = true)
    (applied : Applied files after files.record) (same : after.record = files.record)
    (locks : following.holdsLock = true) (ended : following.current = none) :
    PruneStep expected files readable phase event after (.goesOn following)
  | ended (phase : PrunePhase) (event : XrayEvent) (answer : PruneAnswer) :
    PruneStep expected files readable phase event files (.answers answer)

theorem applied_writeXray {files : XrayFiles} {clients : Clients} :
    Applied files (files.writeXray clients) clients :=
  ⟨rfl, Or.inl rfl, Or.inr rfl, Or.inl rfl⟩

variable {clients : Clients} {files after : XrayFiles} {expected : List Uuid}
  {pair : ProfileCode × Uuid}

theorem applied_hysteria {config : HysteriaConfig}
    (differs : files.hysteriaWrite clients = some config) :
    Applied files { files with hysteriaConfig := config } clients := by
  refine ⟨rfl, Or.inl rfl, Or.inl rfl, Or.inr ?_⟩
  unfold XrayFiles.hysteriaWrite at differs
  split at differs
  · cases differs
  rename_i code profile
  split at differs
  · cases differs
  · cases differs
    exact ⟨code, profile, rfl⟩

theorem pruneStep_of_step {readable : Bool} {phase : PrunePhase} {event : XrayEvent}
    {outcome : PruneOutcome}
    (stepped : pruneStep expected files readable phase event = some (after, outcome)) :
    PruneStep expected files readable phase event after outcome := by
  unfold pruneStep at stepped
  split at stepped
  · cases stepped
    exact .locked
  · cases stepped
    exact .applies _ _ _ _ _ rfl applied_writeXray rfl (Or.inr ⟨rfl, rfl⟩)
  · cases stepped
    exact .ended _ _ _
  · split at stepped
    · cases stepped
      exact .applies _ _ _ _ _ rfl ⟨rfl, Or.inr rfl, Or.inl rfl, Or.inl rfl⟩ rfl (Or.inl rfl)
    · rename_i config differs
      cases stepped
      exact .applies _ _ _ _ _ rfl (applied_hysteria differs) rfl (Or.inr ⟨rfl, rfl⟩)
  · cases stepped
    exact .applies _ _ _ _ _ rfl ⟨rfl, Or.inr rfl, Or.inl rfl, Or.inl rfl⟩ rfl (Or.inl rfl)
  · cases stepped
    exact .rollsBack _ _ _ _ rfl applied_writeXray rfl rfl rfl
  · cases stepped
    exact .rollsBack _ _ _ _ rfl applied_writeXray rfl rfl rfl
  · split at stepped
    · cases stepped
      exact .ended _ _ _
    · rename_i config differs
      cases stepped
      exact .rollsBack _ _ _ _ rfl (applied_hysteria differs) rfl rfl rfl
  all_goals cases stepped
  all_goals exact .ended _ _ _

def takenAway (files after : XrayFiles) : List (ProfileCode × Uuid) :=
  (clientPairs files.record).filter (fun pair => !(clientPairs after.record).contains pair) ++
    files.servedPairs.filter fun pair => !after.servedPairs.contains pair

/-- Every expected client of a served file is recorded, under the profile it is served for. -/
def Bookkept (files : XrayFiles) (expected : List Uuid) : Prop :=
  ∀ pair ∈ files.servedPairs, pair.2 ∈ expected → pair ∈ clientPairs files.record
  deriving Decidable

theorem takenAway_self {files : XrayFiles} {pair : ProfileCode × Uuid} :
    pair ∉ takenAway files files := by
  intro member
  rcases mem_append.mp member with unrecorded | unserved
  · obtain ⟨before, gone⟩ := mem_filter.mp unrecorded
    simp [before] at gone
  · obtain ⟨before, gone⟩ := mem_filter.mp unserved
    simp [before] at gone

theorem mem_servedPairs (files : XrayFiles) (code : ProfileCode) (clientUuid : Uuid) :
    (code, clientUuid) ∈ files.servedPairs ↔
      code ∈ files.settings.codes ∧ clientUuid ∈ files.servedClients code := by
  simp [XrayFiles.servedPairs]

theorem mem_clientPairs {clients : Clients} {code : ProfileCode}
    {clientUuid : Uuid} :
    (code, clientUuid) ∈ clientPairs clients ↔
      clientUuid ∈ (clientsFor clients code).map RenderedXrayClient.clientUuid := by
  simp only [clientPairs, clientsFor, mem_map, mem_filter, beq_iff_eq, Prod.mk.injEq]
  constructor
  · rintro ⟨client, member, sameCode, sameUuid⟩
    exact ⟨client, ⟨member, sameCode⟩, sameUuid⟩
  · rintro ⟨client, ⟨member, sameCode⟩, sameUuid⟩
    exact ⟨client, member, sameCode, sameUuid⟩

theorem mem_renderXray_of_pair {settings : XraySettings} (inbound : pair.1 ∈ settings.inbounds)
    (listed : pair ∈ clientPairs clients) : pair ∈ settings.renderXray clients := by
  obtain ⟨client, member, same⟩ := mem_map.mp listed
  subst same
  exact mem_map_of_mem (mem_filter.mpr ⟨member, by simpa using inbound⟩)

theorem applied_serves (applied : Applied files after clients) (listed : pair ∈ clientPairs clients)
    (recorded : pair ∈ clientPairs after.record) (served : pair ∈ files.servedPairs) :
    pair ∈ after.servedPairs := by
  obtain ⟨code, clientUuid⟩ := pair
  rw [mem_servedPairs] at served ⊢
  obtain ⟨known, served⟩ := served
  refine ⟨by rw [applied.settings]; exact known, ?_⟩
  rw [mem_clientPairs] at recorded
  unfold XrayFiles.servedClients at served ⊢
  rw [applied.settings]
  split
  · rename_i hysteria
    rw [if_pos hysteria] at served
    unfold XrayFiles.liveHysteria at served ⊢
    rcases applied.hysteria with same | ⟨other, profile, rendered⟩
    · rw [same]
      split
      · exact recorded
      · rename_i users lists
        rw [lists] at served
        exact served
    · rw [hysteria] at profile
      cases profile
      rw [rendered]
      cases live : files.settings.liveClientUpdates with
      | true => simpa [XraySettings.renderHysteria, live] using recorded
      | false =>
        simpa [XraySettings.renderHysteria, live] using mem_clientPairs.mp listed
  · rename_i hysteria
    rw [if_neg hysteria] at served
    have inbound : code ∈ files.settings.inbounds := by
      rcases mem_append.mp known with inbound | own
      · exact inbound
      · exact absurd (by simpa using own) hysteria
    unfold XrayFiles.liveClients at served ⊢
    rcases applied.xray with same | rendered
    · rw [same]
      exact served
    · rw [rendered]
      refine mem_map.mpr ⟨(code, clientUuid), mem_filter.mpr ⟨?_, by simp⟩, rfl⟩
      exact mem_renderXray_of_pair inbound listed

theorem applied_takes (applied : Applied files after clients) (bookkept : Bookkept files expected)
    (kept : ∀ pair ∈ clientPairs files.record, pair.2 ∈ expected → pair ∈ clientPairs clients)
    (taken : pair ∈ takenAway files after) : pair.2 ∉ expected := by
  intro wanted
  have recorded : pair ∈ clientPairs files.record → pair ∈ clientPairs after.record := by
    intro before
    rcases applied.record with same | same <;> rw [same]
    · exact before
    · exact kept pair before wanted
  rcases mem_append.mp taken with unrecorded | unserved
  · obtain ⟨before, gone⟩ := mem_filter.mp unrecorded
    simp [recorded before] at gone
  · obtain ⟨before, gone⟩ := mem_filter.mp unserved
    have known := bookkept pair before wanted
    simp [applied_serves applied (kept pair known wanted) (recorded known) before] at gone

end Nebula.Agent
