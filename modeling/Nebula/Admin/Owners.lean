import Nebula.Admin.Steps

/-!
# An active owner remains

An owner may demote or disable any admin but itself, so the actor of a change is an owner who
remains, provided it still is one when the change commits: its own row is read before, without a
lock.
-/

namespace Nebula.Admin

open Schema Work Runs

def AdminUser.isActiveOwner (admin : AdminUser) : Bool :=
  decide (admin.state = .active) && decide (admin.role = .owner)

def System.HasOwner (system : System) : Prop :=
  ∃ admin ∈ system.admins, admin.isActiveOwner = true
  deriving Decidable

/-- Changes to others commit only while their actor is an active owner. -/
def actorStillOwner (system : System) : Event → Bool
  | .commit id =>
    match system.requests.find id with
    | some (.manageLocked actorId _ _ _) =>
      (system.admin actorId).any AdminUser.isActiveOwner
    | _ => true
  | _ => true

def Request.onBehalf : Request → Option (Uuid × Uuid)
  | .manageAccepted actorId adminId _ => some (actorId, adminId)
  | .manageLocked actorId adminId _ _ => some (actorId, adminId)
  | _ => none

def System.OthersOnly (system : System) : Prop :=
  ∀ job ∈ system.requests.jobs, ∀ actorId adminId,
    job.2.onBehalf = some (actorId, adminId) → actorId ≠ adminId

section

variable {before : System} (after : System)

theorem othersOnly_begin (others : before.OthersOnly) {token : SessionToken} {purpose : Purpose}
    (same : after.requests = before.requests.begin (.admitted token purpose)) :
    after.OthersOnly := by
  unfold System.OthersOnly
  rw [same]
  exact Pool.forall_begin others fun _ _ acts => by cases acts

end

section

variable {before : System} (after : System)

theorem hasOwner_commitRow {admin : AdminUser} (member : admin ∈ before.admins)
    (owner : admin.isActiveOwner = true) {adminId : Uuid} {write : AdminUser → AdminUser}
    (cutOff : Option Instant) (kept : admin.id = adminId → (write admin).isActiveOwner = true) :
    (before.commitRow adminId write cutOff).HasOwner := by
  refine ⟨if decide (admin.id = adminId) then write admin else admin, ?_, ?_⟩
  · exact List.mem_map.mpr ⟨admin, member, rfl⟩
  split
  · rename_i chosen
    exact kept (by simpa using chosen)
  · exact owner

theorem transition_hasOwner {event : Event} (owned : before.HasOwner) (others : before.OthersOnly)
    (meets : actorStillOwner before event = true) (step : Transition before event after) :
    after.HasOwner := by
  cases step with
  | signedIn | dropped | looked | turnedAway | admitted | moved | rejected | rotated | takenBack
  | ownRevoked | ownIssued => exact owned
  | passwordCommitted id token principal now found =>
    obtain ⟨admin, member, owner⟩ := owned
    exact hasOwner_commitRow member owner
      ((before.admin principal.adminId).map fun _ => now) fun _ => owner
  | manageCommitted id actorId adminId mutation now found =>
    have apart := others _ (before.requests.find_mem id _ found) actorId adminId rfl
    rw [actorStillOwner, found] at meets
    cases held : before.admin actorId with
    | none => simp [held] at meets
    | some actor =>
      obtain ⟨member, named⟩ := admin_id held
      exact hasOwner_commitRow member (by simpa [held] using meets)
        ((before.admin adminId).bind fun admin => mutation.cutOff now admin) fun chosen =>
          absurd (named.symm.trans chosen) apart
  | invited role =>
    obtain ⟨admin, member, owner⟩ := owned
    exact ⟨admin, List.mem_append_left _ member, owner⟩

end

/-- If changes to other admins commit while their actor is an active owner, one is always left. -/
theorem owner_remains (events : List Event) (start : System) (owned : start.HasOwner)
    (others : start.OthersOnly)
    (meets : RunMeets System.step (actorStillOwner · ·) events start) :
    AlwaysAlong System.step System.HasOwner events start := by
  refine alwaysAlong_of_invariant
    (fun system => system.HasOwner ∧ system.OthersOnly) System.HasOwner ?_
    (fun _ holds => holds.1) ⟨owned, others⟩ meets
  intro before event after holds meetsStep taken
  have step := step_transition taken
  refine ⟨transition_hasOwner after holds.1 holds.2 meetsStep step, ?_⟩
  cases step with
  | signedIn | dropped | turnedAway | invited => exact holds.2
  | looked token csrf now => exact othersOnly_begin _ holds.2 rfl
  | admitted token purpose csrf now record found =>
    exact othersOnly_begin _ holds.2 rfl
  | moved _ id request next found advance =>
    apply Pool.forall_resume holds.2
    intro later goesOn actorId adminId acts
    subst goesOn
    cases advance with
    | read | timed | stepUpLocked | passwordLocked => cases acts
    | accepted token record purpose principal _ goesOn =>
      cases purpose with
      | look => cases goesOn
      | stepUp =>
        cases goesOn
        cases acts
      | changePassword =>
        obtain ⟨_, goesOn⟩ := Option.ite_none_right_eq_some.mp goesOn
        cases goesOn
        cases acts
      | manage target mutation =>
        obtain ⟨allowed, goesOn⟩ := Option.ite_none_right_eq_some.mp goesOn
        cases goesOn
        cases acts
        exact fun same => allowed.2.2 same.symm
    | manageLocked _ _ mutation now =>
      exact holds.2 _ (before.requests.find_mem id _ found) actorId adminId acts
  | rejected id now token | manageCommitted id actorId adminId mutation now found
  | takenBack id replacement | ownIssued id now principal =>
    exact Pool.forall_resume holds.2 fun _ ends => nomatch ends
  | rotated id now token adminId record found live
  | passwordCommitted id token principal now found | ownRevoked id token principal =>
    apply Pool.forall_resume holds.2
    intro later goesOn actorId target acts
    cases goesOn
    cases acts

def twoOwners : System :=
  deployment [invitedAdmin 1 .owner, invitedAdmin 2 .owner]

def bothSteppedUp : List Event :=
  [.signIn 1 .totp 5000, .signIn 2 .totp 5000] ++ steppingUp 0 0 0 6000 ++ steppingUp 1 1 1 6000

def firstDisablesSecond : List Event :=
  [.arrive 3 (.manage 2 (.setDisabled true)) 3 7000, .readSession 2 7000, .check 2 7000,
    .lockRow 2 8000, .commit 2]

/-- Each is authorised to disable the other before either transaction commits. -/
def disableEachOther : List Event :=
  [.arrive 3 (.manage 2 (.setDisabled true)) 3 7000, .readSession 2 7000, .check 2 7000,
    .arrive 5 (.manage 1 (.setDisabled true)) 5 7000, .readSession 3 7000, .check 3 7000,
    .lockRow 2 8000, .lockRow 3 8000, .commit 2, .commit 3]

theorem owner_remains_firstDisablesSecond :
    AlwaysAlong System.step System.HasOwner (bothSteppedUp ++ firstDisablesSecond) twoOwners ∧
      ∃ final, runEvents System.step (bothSteppedUp ++ firstDisablesSecond) twoOwners =
        some final ∧ (final.admin 2).map AdminUser.state = some .disabled :=
  ⟨owner_remains _ twoOwners (by decide) (List.forall_mem_nil _) (by decide +kernel),
    runEvents_exists System.step _ _ _ (by decide +kernel)⟩

theorem no_owner_left_disableEachOther :
    twoOwners.HasOwner ∧ twoOwners.requests = .empty ∧
      ¬ AlwaysAlong System.step System.HasOwner (bothSteppedUp ++ disableEachOther) twoOwners :=
  ⟨by decide, rfl, not_alwaysAlong System.HasOwner _ twoOwners (by decide +kernel)⟩

end Nebula.Admin
