import Nebula.ControlPlane.TaskSteps

/-!
# What one step does to the credentials

A `device_protocol_credentials` row is written next to the peer or client row it
belongs to. The first half says what a step can do to the credentials; the second
that the two rows never disagree about whether there is access left to revoke.
-/

namespace Nebula.ControlPlane

open Schema Store Runs List

def CredentialsKept (before after : Tables) : Prop :=
  ∃ write added, after.credentials = before.credentials.map write ++ added ∧
    ∀ credential, SameCredential credential (write credential)

inductive CredentialsAfter (state : State) (event : Event) (after : Tables) : Prop
  | kept (kept : CredentialsKept state.tables after)
  | resealed (credentialId : Uuid) (readable : Bool)
    (taken : event = .admin (.setReadable credentialId readable))
    (written : after = applyAdmin state.tables (.setReadable credentialId readable))

section

variable {before : Tables}

theorem sameCredential_refl (credential : Credential) : SameCredential credential credential :=
  ⟨rfl, rfl, rfl⟩

theorem credentialsKept_of_eq {after : Tables} (same : after.credentials = before.credentials) :
    CredentialsKept before after :=
  ⟨id, [], by rw [same, map_id, append_nil], sameCredential_refl⟩

theorem credentialsKept_updateWhere {after : Tables} {selected : Credential → Bool}
    {write : Credential → Credential}
    (written : after.credentials = updateWhere selected write before.credentials)
    (same : ∀ credential, SameCredential credential (write credential)) :
    CredentialsKept before after := by
  refine ⟨fun credential => if selected credential then write credential else credential, [],
    ?_, ?_⟩
  · rw [written, append_nil]
    rfl
  intro credential
  dsimp only
  split
  · exact same credential
  · exact sameCredential_refl credential

end

section

variable {state : State}

theorem provisioned_credentials {event : Event} {tables : Tables}
    (provisioned : Provisioned state event tables) : CredentialsKept state.tables tables := by
  cases provisioned with
  | operations => exact credentialsKept_of_eq rfl
  | rewritten row credentialId write writeCredential operations _ _ same =>
    exact credentialsKept_updateWhere rfl same
  | inserted => exact ⟨id, _, by rw [map_id], sameCredential_refl⟩

theorem written_credentials {event : Event} {tables : Tables}
    (written : Written state event tables) : CredentialsAfter state event tables := by
  cases written_kinds written with
  | provisioned service => exact .kept (provisioned_credentials service)
  | marked selected now _ credentials =>
    exact .kept (credentialsKept_updateWhere credentials fun _ => ⟨rfl, rfl, rfl⟩)
  | resealed credentialId readable taken written =>
    exact .resealed credentialId readable taken written
  | beside _ credentials => exact .kept (credentialsKept_of_eq credentials)

end

/-! ## A credential and its row -/

/-- Only a new credential is `requested` beside a row that is `applying` already. -/
def together (row credential : ProvisioningState) : Prop :=
  credential = row ∨ row = .applying ∧ credential = .requested

def Paired (tables : Tables) : Prop :=
  ∀ credential ∈ tables.credentials, ∃ row ∈ tables.rows,
    row.credentialId = credential.id ∧ together row.state credential.state

structure Agreement (state : State) : Prop where
  paired : Paired state.tables
  owned : ∀ entry ∈ state.tasks, ∀ call ∈ entry.2.service, CallOwned state.tables call

section

variable {tables : Tables}

theorem paired_write (consistent : tables.Consistent) (paired : Paired tables) {row : Row}
    (member : row ∈ tables.rows) {write : Row → Row} {writeCredential : Credential → Credential}
    (keeps : (write row).credentialId = row.credentialId)
    (same : ∀ credential, SameCredential credential (writeCredential credential))
    (agrees : ∀ credential, together (write row).state (writeCredential credential).state) :
    Paired
      ((tables.writeRow row.id write).writeCredential row.credentialId writeCredential) := by
  intro credential present
  obtain ⟨old, oldMember, rewritten⟩ := mem_map.mp present
  obtain ⟨partner, partnerMember, named, agrees'⟩ := paired old oldMember
  by_cases own : old.id = row.credentialId
  · have partnerIsRow : partner = row :=
      inj_on_of_nodup_map consistent.rowCredentialIds partnerMember member
        (named.trans own)
    rw [if_pos (by simpa using own)] at rewritten
    refine ⟨write row, mem_map.mpr ⟨row, member, by simp⟩, ?_, ?_⟩
    · rw [keeps, ← rewritten, (same old).id, own]
    · rw [← rewritten]
      exact agrees old
  · have other : partner.id ≠ row.id := by
      intro sameId
      have partnerIsRow : partner = row :=
        inj_on_of_nodup_map consistent.rowIds partnerMember member sameId
      exact own (by rw [← named, partnerIsRow])
    rw [if_neg (by simpa using own)] at rewritten
    subst rewritten
    exact ⟨partner, mem_map.mpr ⟨partner, partnerMember, by simp [other]⟩, named, agrees'⟩

theorem paired_markRevoking (consistent : tables.Consistent) {selected : Row → Bool}
    {now : Instant} (paired : Paired tables) :
    Paired (markRevoking selected now tables) := by
  intro credential present
  obtain ⟨old, oldMember, rewritten⟩ := mem_map.mp present
  obtain ⟨row, member, named, agrees⟩ := paired old oldMember
  have sameId : credential.id = old.id := by
    rw [← rewritten]
    split <;> rfl
  -- The credential is marked exactly when its one row is.
  have covered : (tables.rows.any fun row =>
      selected row && row.state.revocable && row.credentialId == old.id) =
        (selected row && row.state.revocable) := by
    rw [Bool.eq_iff_iff, any_eq_true]
    constructor
    · rintro ⟨other, otherMember, marked⟩
      rw [Bool.and_eq_true, beq_iff_eq] at marked
      have one := inj_on_of_nodup_map consistent.rowCredentialIds otherMember member
        (marked.2.trans named.symm)
      rw [← one]
      exact marked.1
    · intro marked
      exact ⟨row, member, by rw [marked, named]; simp⟩
  simp only [covered] at rewritten
  by_cases chosen : (selected row && row.state.revocable) = true
  · refine ⟨revokingRow now row, mem_map.mpr ⟨row, member, if_pos chosen⟩, ?_, ?_⟩
    · rw [sameId]
      exact named
    · rw [if_pos chosen] at rewritten
      rw [← rewritten]
      exact Or.inl rfl
  · refine ⟨row, mem_map.mpr ⟨row, member, if_neg chosen⟩, by rw [sameId, named], ?_⟩
    rw [if_neg chosen] at rewritten
    rw [← rewritten]
    exact agrees

end

theorem step_callOwned {state next : State} {event : Event} (taken : step state event = some next)
    {call : ServiceCall} (owned : CallOwned state.tables call) : CallOwned next.tables call := by
  obtain ⟨row, member, target, credentialId⟩ := owned
  obtain ⟨change, added, rows, changes, _⟩ := step_rows taken
  refine ⟨change row, ?_, (changes row member).identity.id.trans target,
    (changes row member).identity.credentialId.trans credentialId⟩
  rw [rows]
  exact mem_append_left _ (mem_map.mpr ⟨row, member, rfl⟩)

section

variable {state : State}

theorem written_paired (agreement : Agreement state) {event : Event} {tables : Tables}
    (planned : Written state event tables) : Paired tables := by
  have paired := agreement.paired
  cases written_kinds planned with
  | provisioned service =>
    cases service with
    | operations => exact agreement.paired
    | rewritten row credentialId write writeCredential operations member change same same_ owned =>
      rw [owned agreement.owned]
      refine paired_write state.database.consistent agreement.paired member
        change.identity.credentialId same ?_
      intro credential
      exact Or.inl (same_ credential)
    | inserted =>
      intro credential present
      rcases mem_append.mp present with old | new
      · obtain ⟨row, member, named, agrees⟩ := agreement.paired credential old
        exact ⟨row, mem_append_left _ member, named, agrees⟩
      · rw [mem_singleton.mp new]
        exact ⟨_, mem_append_right _ (mem_singleton.mpr rfl), rfl, Or.inr ⟨rfl, rfl⟩⟩
  | marked selected now rows credentials =>
    unfold Paired
    rw [rows, credentials]
    exact paired_markRevoking state.database.consistent paired
  | resealed credentialId readable _ written =>
    rw [written]
    intro credential present
    obtain ⟨old, oldMember, rewritten⟩ := mem_map.mp present
    obtain ⟨row, member, named, agrees⟩ := paired old oldMember
    refine ⟨row, member, ?_⟩
    split at rewritten <;>
    · subst rewritten
      exact ⟨named, agrees⟩
  | beside rows credentials =>
    unfold Paired
    rw [rows, credentials]
    exact paired

theorem step_agreement {next : State} {event : Event} (agreement : Agreement state)
    (taken : step state event = some next) : Agreement next where
  paired := written_paired agreement (step_written taken)
  owned := by
    intro entry member call called
    rcases step_tasks taken member with ⟨old, _⟩ | start
    · exact step_callOwned taken (agreement.owned entry old call called)
    obtain ⟨id, task⟩ := entry
    cases start with
    | reconnecting connect row operation _ _ rowMember _ _ _ _ _ rewritten =>
      cases called
      refine ⟨reconnectedRow connect row, ?_, rfl, rfl⟩
      rw [rewritten]
      exact mem_writeRow rowMember
    | connecting connect address runtime row operation _ _ _ _ _ _ appended =>
      cases called
      refine ⟨row, ?_, rfl, rfl⟩
      rw [appended]
      exact mem_append_right _ (mem_singleton.mpr rfl)
    | disconnecting request allowed now accepted operation _ checks _ _ rewritten =>
      cases called
      obtain ⟨deviceId, profileId, found, _⟩ := disconnectChecks_spec checks
      refine ⟨revokingRow now accepted.row, ?_, rfl, rfl⟩
      rw [rewritten]
      exact mem_writeRow (liveRowOf_spec found).1
    | resumed received old _ _ found resumes =>
      have oldMember := task_mem found
      cases resumes with
      | finalizing held applied _ =>
        exact step_callOwned taken (agreement.owned _ oldMember call called)
      | _ => cases called
    | _ => cases called

end

section

variable (tables : Tables) (selected : Row → Bool) (now : Instant)

theorem mem_markRevoking {row : Row} (member : row ∈ (markRevoking selected now tables).rows) :
    ∃ old ∈ tables.rows, row = old ∨ row = revokingRow now old := by
  obtain ⟨old, oldMember, rewritten⟩ := mem_map.mp member
  refine ⟨old, oldMember, ?_⟩
  split at rewritten
  · exact Or.inr rewritten.symm
  · exact Or.inl rewritten.symm

theorem markRevoking_unique {Key : Type} (index : Row → Option Key)
    (unique : UniqueOn index tables.rows)
    (keys : ∀ row : Row, row.live = true → index (revokingRow now row) = index row) :
    UniqueOn index (markRevoking selected now tables).rows := by
  refine unique.map _ ?_
  intro row _
  right
  split
  · rename_i chosen
    rw [Bool.and_eq_true] at chosen
    exact keys row (revocable_live chosen.2)
  · rfl

theorem together_of_row (consistent : tables.Consistent) (paired : Paired tables)
    {row : Row} (member : row ∈ tables.rows) {credential : Credential}
    (present : credential ∈ tables.credentials) (named : row.credentialId = credential.id) :
    together row.state credential.state := by
  obtain ⟨partner, partnerMember, partnerNamed, agree⟩ := paired credential present
  have one : partner = row := inj_on_of_nodup_map consistent.rowCredentialIds partnerMember
    member (partnerNamed.trans named.symm)
  exact one ▸ agree

theorem together_live {row credential : ProvisioningState} (agree : together row credential) :
    credential.live = row.live := by
  rcases agree with same | ⟨applying, requested⟩
  · rw [same]
  · rw [applying, requested]
    rfl

theorem markRevoking_credentialLive (consistent : tables.Consistent)
    (paired : Paired tables) :
    UniqueOn credentialLive (markRevoking selected now tables).credentials := by
  refine consistent.credentials.map _ ?_
  intro credential present
  right
  split
  · rename_i marked
    obtain ⟨row, member, chosen⟩ := any_eq_true.mp marked
    simp only [Bool.and_eq_true, beq_iff_eq] at chosen
    have live := together_live (together_of_row tables consistent paired member present chosen.2)
    rw [credentialLive, credentialLive, if_pos (live.trans (revocable_live chosen.1.2))]
    rfl
  · rfl

theorem markRevoking_consistent (consistent : tables.Consistent)
    (paired : Paired tables) : (markRevoking selected now tables).Consistent := by
  have fields : ∀ {Field : Type} (field : Row → Field),
      (∀ row, field (revokingRow now row) = field row) →
      (markRevoking selected now tables).rows.map field = tables.rows.map field :=
    fun field same => map_updateWhere _ _ field same tables.rows
  have each : ∀ {Holds : Row → Prop}, (∀ row, Holds row → Holds (revokingRow now row)) →
      (∀ row ∈ tables.rows, Holds row) → ∀ row ∈ (markRevoking selected now tables).rows,
        Holds row := by
    intro Holds kept all row member
    obtain ⟨old, oldMember, same | same⟩ := mem_markRevoking tables selected now member
    · exact same ▸ all old oldMember
    · exact same ▸ kept old (all old oldMember)
  have unique := @markRevoking_unique tables selected now
  exact { consistent with
    rowIds := fields Row.id (fun _ => rfl) ▸ consistent.rowIds
    rowCredentialIds := fields Row.credentialId (fun _ => rfl) ▸ consistent.rowCredentialIds
    credentialIds := by
      have same := map_updateWhere
        (fun credential => tables.rows.any fun row =>
          selected row && row.state.revocable && row.credentialId == credential.id)
        (fun credential => { credential with state := .revoking }) Credential.id (fun _ => rfl)
        tables.credentials
      exact same ▸ consistent.credentialIds
    peerKeys := unique _ consistent.peerKeys fun row live => by
      unfold peerKeyLive
      rw [live]
      rfl
    peerAddresses := unique _ consistent.peerAddresses fun row live => by
      unfold peerAddressLive
      rw [live]
      rfl
    peerDevices := unique _ consistent.peerDevices fun row live => by
      unfold peerDeviceLive
      rw [live]
      rfl
    clientDevices := unique _ consistent.clientDevices fun row live => by
      unfold clientDeviceLive
      rw [live]
      rfl
    credentials := markRevoking_credentialLive tables selected now consistent paired
    rowTimes := each (fun _ => id) consistent.rowTimes
    credentialTimes := by
      intro credential present
      obtain ⟨old, oldPresent, rewritten⟩ := mem_map.mp present
      have times := consistent.credentialTimes old oldPresent
      rw [← rewritten]
      split
      · unfold Schema.credentialTimes at times ⊢
        cases revokedAt : old.revokedAt with
        | none => rfl
        | some instant => simpa [revokedAt] using times
      · exact times
    rowCredentials := by
      intro row member
      obtain ⟨old, oldMember, same⟩ := mem_markRevoking tables selected now member
      obtain ⟨credential, present, matched⟩ := consistent.rowCredentials old oldMember
      refine ⟨_, mem_map_of_mem present, ?_⟩
      split <;> rcases same with same | same <;> rw [same] <;> exact matched
    rowDevices := each (fun _ => id) consistent.rowDevices
    rowProfiles := each (fun _ => id) consistent.rowProfiles }

end

/-- A row's credential is of its device, server and profile, live exactly when it is, and in its
state unless just requested. -/
def RowsAgree (tables : Tables) : Prop :=
  ∀ row ∈ tables.rows, ∃ credential ∈ tables.credential row.credentialId,
    credential.deviceId = row.deviceId ∧ credential.serverId = row.serverId ∧
      credential.profileId = row.profileId ∧ credential.state.live = row.live ∧
        together row.state credential.state

theorem rows_agree_with_credentials (events : List Event) (start : State)
    (idle : start.tasks = []) (paired : Paired start.tables) :
    AlwaysAlong step (fun state => RowsAgree state.tables) events start := by
  refine alwaysAlong_of_invariant (Agreement) _ ?_ ?_
    ⟨paired, by simp [idle]⟩ (runMeets_of_forall step (fun _ _ => trivial) events start)
  · intro state event next agreement _ taken
    exact step_agreement agreement taken
  intro state agreement row member
  obtain ⟨credential, present, fits⟩ := state.database.consistent.rowCredentials row member
  simp only [credentialMatches, Bool.and_eq_true, beq_iff_eq] at fits
  obtain ⟨⟨⟨⟨named, _⟩, device⟩, profile⟩, server⟩ := fits
  have agree := together_of_row state.tables state.database.consistent agreement.paired member
      present named.symm
  have found : state.tables.credential row.credentialId = some credential :=
    named ▸ lookup_of_mem_nodup _ state.database.consistent.credentialIds
        present
  exact ⟨credential, found, device, server, profile, together_live agree, agree⟩

def revokedAgain : List Event :=
  peerConnected ++ [.connectCheck ⟨1, 2, 30, 40, some 8⟩ true 12, .connectLookup 1,
    .revokeDevice 2 13]

theorem rows_agree_with_credentials_revokedAgain :
    AlwaysAlong step (fun state => RowsAgree state.tables) revokedAgain smallStart ∧
      ((runEvents step revokedAgain smallStart).map fun final =>
        final.tables.rows.map Row.state) = some [.revoking] :=
  ⟨rows_agree_with_credentials _ smallStart rfl (forall_mem_nil _), by decide +kernel⟩

end Nebula.ControlPlane
