import Nebula.Agent.Lingering
import Nebula.Agent.XrayWhole

/-!
# A live update serves what a restart would

`_apply_clients_live`, where the shape of the config has not changed. Its last loop compares
what Xray serves with the rendered clients: whatever the commands did, an update that ends
without an error leaves the rendered users. An inbound of another protocol is not compared.
-/

namespace Nebula.Agent.LiveClients

open Schema Runs List
open Agent.XrayCall (Inbounds RunEnd Served)

def liveInbounds (driver : XrayCall.Host) (desired : Clients) : Inbounds :=
  (driver.settings.inbounds.filter driver.liveProfiles.contains).map fun code =>
    (code, (clientsFor desired code).map RenderedXrayClient.clientUuid)

def DifferInLiveClients (driver : XrayCall.Host) (served rendered : Served Inbounds) : Prop :=
  ∃ shape before after, served = .config shape before ∧ rendered = .config shape after ∧
    List.Forall₂ (fun one other => one.1 = other.1 ∧
      (driver.liveProfiles.contains one.1 = false → one.2 = other.2)) before after

def ServesEach (host : Host) (inbounds : Inbounds) : Prop :=
  ∀ inbound ∈ inbounds, host.usersOf inbound.1 ⊆ inbound.2 ∧ inbound.2 ⊆ host.usersOf inbound.1

/-- `_apply_clients_live` goes on: the command it waits for succeeds. -/
def updates (host : Host) : HostEvent → Bool
  | .apply .succeeded _ =>
    match host.apply with
    | some (.querying _ _ _ _ _) | some (.removing _ _ _ _ _) | some (.adding _ _)
    | some (.checking _ _ _ _) => true
    | _ => false
  | _ => false

def Checked (wanted : Inbounds) (host : Host) : Prop :=
  host.file = wanted ∧
    match host.apply with
    | some (.checking tag clients rest _) =>
      ∃ seen, wanted = seen ++ (tag, clients) :: rest ∧ ServesEach host seen
    | some (.applyingHysteria _) => ServesEach host wanted
    | _ => True

section

variable {wanted : Inbounds} {host : Host} (file : host.file = wanted)
include file

theorem checked_nextCheck {seen todo : Inbounds} {removed : List Email}
    (split : wanted = seen ++ todo) (serves : ServesEach host seen) :
    Checked wanted (host.nextCheck todo removed) := by
  refine ⟨file, ?_⟩
  cases todo with
  | nil =>
    rw [append_nil] at split
    rw [split]
    exact serves
  | cons inbound rest => exact ⟨seen, split, serves⟩

theorem checked_nextQuery {todo : Inbounds} {removed : List Email}
    {additions : List (ProfileCode × Email)} :
    Checked wanted (host.nextQuery todo removed additions) := by
  unfold Host.nextQuery
  split
  · exact ⟨file, trivial⟩
  · split
    · exact checked_nextCheck file (nil_append _ ▸ file.symm) (forall_mem_nil _)
    · exact ⟨file, trivial⟩

omit file

theorem step_checked {event : HostEvent} {next : Host} (checked : Checked wanted host)
    (going : updates host event = true) (taken : host.step event = some next) :
    Checked wanted next := by
  obtain ⟨file, phased⟩ := checked
  cases event with
  | apply outcome done =>
    cases outcome with
    | succeeded =>
      cases at_ : host.apply with
      | none => simp [updates, at_] at going
      | some phase =>
        simp only [Host.step, Host.applyStep, at_, Host.onFailure] at taken
        simp only [at_] at phased
        cases phase with
        | querying tag clients rest removed additions =>
          cases taken
          unfold Host.compare
          dsimp only
          split
          · exact checked_nextQuery file
          · exact ⟨file, trivial⟩
        | removing tag gone rest removed additions =>
          cases taken
          exact checked_nextQuery (by exact file)
        | adding removed additions =>
          cases taken
          exact checked_nextCheck (by exact file) (nil_append _ ▸ file.symm) (forall_mem_nil _)
        | checking tag clients rest removed =>
          cases taken
          obtain ⟨seen, split, serves⟩ := phased
          unfold Host.check
          dsimp only
          split
          · rename_i same
            refine checked_nextCheck file (split.trans (append_cons seen _ rest)) ?_
            intro inbound member
            rcases mem_append.mp member with old | new
            · exact serves inbound old
            · cases mem_singleton.mp new
              simpa [subset_def] using same
          · exact ⟨file, trivial⟩
        | _ => simp [updates, at_] at going
    | _ => cases going
  | _ => cases going

end

section

variable (driver : XrayCall.Host)

theorem differInLiveClients {served rendered : Served Inbounds}
    (live : driver.updatesLive served rendered = true) :
    DifferInLiveClients driver served rendered := by
  simp only [XrayCall.Host.updatesLive, Bool.and_eq_true, decide_eq_true_eq] at live
  obtain ⟨⟨_, parsed⟩, same⟩ := live
  cases served with
  | unreadable | unparsed => cases parsed
  | config shape before =>
    cases rendered with
    | unreadable | unparsed => cases same
    | config other after =>
      obtain ⟨rfl, blanked⟩ := Prod.mk.inj (Option.some.inj same)
      refine ⟨shape, before, after, rfl, rfl, ?_⟩
      rw [← forall₂_eq_eq_eq, forall₂_map_left_iff, forall₂_map_right_iff] at blanked
      refine blanked.imp fun one other alike => ?_
      obtain ⟨tag, clients⟩ := Prod.mk.inj alike
      refine ⟨tag, fun fixed => ?_⟩
      simpa only [← tag, fixed, Bool.false_eq_true, if_false] using clients

theorem restarted_serves {desired : Clients} {host : Host}
    (file : host.file = liveInbounds driver desired) :
    ServesEach host.restarted (liveInbounds driver desired) := by
  intro inbound member
  obtain ⟨code, own, rfl⟩ := mem_map.mp member
  have same : ∀ email, email ∈ host.restarted.usersOf code ↔
      email ∈ (clientsFor desired code).map RenderedXrayClient.clientUuid := by
    simp_all [Host.usersOf, Host.restarted, liveInbounds]
  exact ⟨fun email => (same email).mp, fun email => (same email).mpr⟩

/-- An update without an error leaves every live inbound as a restart would, and the rest as it was.
-/
theorem live_update_exact (served : Served Inbounds) (desired : Clients)
    (live : driver.updatesLive served (driver.renderXray desired) = true)
    (host first final : Host) (events : List HostEvent) (removed : List Email)
    (begun : host.begin (liveInbounds driver desired) true = some first)
    (going : RunMeets Host.step (updates · ·) events first)
    (run : runEvents Host.step events first = some final)
    (ended : final.apply = some (.applyingHysteria removed)) :
    DifferInLiveClients driver served (driver.renderXray desired) ∧
      ServesEach final (liveInbounds driver desired) ∧
      ServesEach final.restarted (liveInbounds driver desired) := by
  have start : Checked (liveInbounds driver desired) first := by
    unfold Host.begin at begun
    split at begun <;> cases begun
    exact checked_nextQuery rfl
  obtain ⟨file, serves⟩ := runEvents_invariant (Checked _)
    (fun _ _ _ => step_checked) first start going run
  rw [ended] at serves
  exact ⟨differInLiveClients driver live, serves, restarted_serves driver file⟩

end

def twoInbounds : XrayCall.Host :=
  { XrayCall.quietHost with
    settings := { inbounds := [1, 2], hysteriaProfile := none, liveClientUpdates := true }
    xrayConfig := .config ['x'] [(1, [7]), (2, [8])] }

def clientOnEach : Clients :=
  [⟨6, 1, 1⟩, ⟨8, 2, 1⟩]

def fourCommands : List HostEvent :=
  [.apply .succeeded [], .apply .succeeded [7], .apply .succeeded [6], .apply .succeeded []]

theorem live_update_exact_downloading :
    ∃ first final, downloading.begin (liveInbounds twoInbounds clientOnEach) true = some first ∧
      runEvents Host.step fourCommands first = some final ∧
      ServesEach final (liveInbounds twoInbounds clientOnEach) :=
  ⟨_, _, rfl, rfl, (live_update_exact twoInbounds twoInbounds.xrayConfig clientOnEach (by decide)
    downloading _ _ fourCommands [7] rfl (by decide) rfl rfl).2.1⟩

theorem live_update_passes_over_hysteria :
    ∃ first final, downloading.begin (liveInbounds twoInbounds clientOnEach) true = some first ∧
      runEvents Host.step fourCommands first = some final ∧
      final.apply = some (.applyingHysteria [7]) ∧ final.usersOf 2 = [] ∧
      twoInbounds.updatesLive twoInbounds.xrayConfig (twoInbounds.renderXray clientOnEach) = true ∧
      twoInbounds.renderXray clientOnEach = .config ['x'] [(1, [6]), (2, [8])] :=
  ⟨_, _, rfl, rfl, rfl, rfl, by decide, rfl⟩

end Nebula.Agent.LiveClients
