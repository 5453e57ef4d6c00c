import Mathlib.Data.List.TakeWhile
import Nebula.Agent.Xray
import Nebula.Python

/-!
# Who may connect to Hysteria2

`authorize_hysteria` reads what a client presents with `uuid.UUID`, which takes many spellings,
and compares it in lower case with the one spelling the control plane gives out.
-/

namespace Nebula.Agent

open Schema Store Json Python List

def isDigest (text : Text) : Bool :=
  text.length == 64 && text.all fun char => char.isDigit || ('a' ≤ char && char ≤ 'f')

abbrev Digest : Type := { text : Text // isDigest text = true }

section

variable (unicode : Unicode) (sha256 : Text → Digest)

variable (clientUuid : Uuid)

def clientEmail : Text :=
  sha256 (uuidText clientUuid)

def counterIdentity (label : Text) : Text :=
  if isDigest label then label else sha256 label

def usageDigest : Text :=
  sha256 (uuidText clientUuid)

def XrayFiles.authorizeHysteria (files : XrayFiles) (auth : Text) : Option Text :=
  files.settings.hysteriaProfile.bind fun profile =>
    let user := auth.takeWhile (· ≠ ':')
    let rest := auth.dropWhile (· ≠ ':')
    if rest ≠ [] ∧ user ≠ rest.tail then none
    else
      (parseUuid unicode user).bind fun clientUuid =>
        if uuidText clientUuid ≠ lower unicode user then none
        else
          (clientOf files.record clientUuid).bind fun recorded =>
            if recorded.protocolProfileCode ≠ profile then none
            else some (clientEmail sha256 clientUuid)

inductive Built : Clients → Prop
  | empty : Built []
  | withClient {clients : Clients} (client : RenderedXrayClient)
    (small : client.clientUuid < 2 ^ 128) : Built clients → Built (withClient clients client)
  | withoutClient {clients : Clients} (clientUuid : Uuid) :
    Built clients → Built (withoutClient clients clientUuid)

theorem Built.nodup {clients : Clients} (recorded : Built clients) :
    (clients.map RenderedXrayClient.clientUuid).Nodup := by
  induction recorded with
  | empty => exact nodup_nil
  | withClient client _ _ ih => exact upsert_nodup _ ih
  | withoutClient clientUuid _ ih => exact remove_nodup _ ih

theorem Built.small {clients : Clients} (recorded : Built clients) :
    ∀ client ∈ clients, client.clientUuid < 2 ^ 128 := by
  induction recorded with
  | empty => exact forall_mem_nil _
  | withClient client small _ ih =>
    intro other member
    rcases (mem_upsert _).mp member with ⟨old, _⟩ | rfl
    · exact ih other old
    · exact small
  | withoutClient clientUuid _ ih => exact fun client member => ih client (mem_filter.mp member).1

/-- The UUID's hyphenated form, in any letter case, alone or twice. -/
def Presents (auth : Text) : Prop :=
  ∃ user : Text, user.map Char.toLower = uuidText clientUuid ∧
    (auth = user ∨ auth = user ++ ':' :: user)

theorem presents_iff (auth : Text) :
    Presents clientUuid auth ↔
      ¬ (auth.dropWhile (· ≠ ':') ≠ [] ∧
        auth.takeWhile (· ≠ ':') ≠ (auth.dropWhile (· ≠ ':')).tail) ∧
      (auth.takeWhile (· ≠ ':')).map Char.toLower = uuidText clientUuid := by
  constructor
  · rintro ⟨user, spelled, presented⟩
    have plain : ∀ char ∈ user, decide (char ≠ ':') = true := by
      intro char member
      rw [decide_eq_true_eq]
      rintro rfl
      have listed := uuidText_chars clientUuid ':' (spelled ▸ mem_map_of_mem member)
      revert listed
      decide
    rcases presented with rfl | rfl
    · rw [dropWhile_eq_nil_iff.mpr plain, takeWhile_eq_self_iff.mpr plain]
      exact ⟨fun both => both.1 rfl, spelled⟩
    · rw [takeWhile_append_of_pos plain, dropWhile_append_of_pos plain]
      simpa using spelled
  · rintro ⟨same, spelled⟩
    refine ⟨_, spelled, ?_⟩
    have whole : _ = auth := takeWhile_append_dropWhile (p := (· ≠ ':'))
    have stops := head?_dropWhile_not (· ≠ ':') auth
    cases rest : auth.dropWhile (· ≠ ':') with
    | nil =>
      rw [rest, append_nil] at whole
      exact Or.inl whole.symm
    | cons mark password =>
      rw [rest] at same whole stops
      right
      simp_all

/-- Exactly a recorded client that presents its UUID is admitted, under a label of its own. -/
theorem hysteria_admits_recorded (files : XrayFiles) (recorded : Built files.record)
    (apart : ∀ one ∈ files.record, ∀ other ∈ files.record,
      usageDigest sha256 one.clientUuid = usageDigest sha256 other.clientUuid →
        one.clientUuid = other.clientUuid) (auth label : Text) :
    files.authorizeHysteria unicode sha256 auth = some label ↔
      ∃ client ∈ files.record, files.settings.hysteriaProfile = some client.protocolProfileCode ∧
        Presents client.clientUuid auth ∧ label = clientEmail sha256 client.clientUuid ∧
        ∀ other ∈ files.record,
          usageDigest sha256 other.clientUuid = counterIdentity sha256 label ↔ other = client := by
  simp only [XrayFiles.authorizeHysteria, Option.bind_eq_some_iff, Option.ite_none_left_eq_some,
    Option.some.injEq, presents_iff, not_not]
  constructor
  · rintro ⟨profile, serves, same, clientUuid, -, lowered, client, found, rfl, rfl⟩
    obtain ⟨member, rfl⟩ := lookup_mem found
    have spelled := (lower_eq_uuidText unicode).mp lowered.symm
    refine ⟨client, member, serves, ⟨same, spelled⟩, rfl, fun other present => ?_⟩
    rw [counterIdentity, clientEmail, if_pos (sha256 _).2]
    refine ⟨fun counts => ?_, fun same => by rw [same]; rfl⟩
    exact inj_on_of_nodup_map recorded.nodup present member
      (apart other present client member counts)
  · rintro ⟨client, member, serves, ⟨same, spelled⟩, rfl, -⟩
    exact ⟨_, serves, same, client.clientUuid,
      parseUuid_spelled unicode (recorded.small client member) spelled,
      ((lower_eq_uuidText unicode).mpr spelled).symm, client,
      lookup_of_mem_nodup _ recorded.nodup member, rfl, rfl⟩

end

def mixedCase : Text := "00000000-0000-0000-0000-000000ABcdEF".toList

theorem hysteria_admits_recorded_twice :
    XrayFiles.authorizeHysteria default (fun _ => ⟨replicate 64 '0', by decide⟩)
      ⟨⟨[], some 7, true⟩, [⟨0xABCDEF, 7, 1⟩], [], .http⟩ (mixedCase ++ ':' :: mixedCase) =
        some (replicate 64 '0') :=
  (hysteria_admits_recorded _ _ _ (.withClient _ (by decide) .empty) (by simp) _ _).mpr
    ⟨⟨0xABCDEF, 7, 1⟩, by simp, rfl, ⟨mixedCase, by decide, Or.inr rfl⟩, rfl,
      fun other member => iff_of_true rfl (mem_singleton.mp member)⟩

end Nebula.Agent
