import Nebula.Fleet.Exclusion

/-!
# The holder of the lock

What a change of the Xray driver needs of the files is only disturbed by another change, and
the lock keeps other changes out. So a predicate on the files, the change and its phase that
the change's own steps keep is kept by every step of the fleet; the edits from outside are the
one exception.
-/

namespace Nebula.Fleet

open Schema ControlPlane Agent

def lockRule (stands : XrayFiles → ClientChange → XrayPhase → Prop) : Discipline where
  concerns := Job.holdsLock
  fits agent job :=
    match job.phase with
    | .xray phase => ∀ change, callClientChange job.envelope.call = some change →
        stands agent.files change phase
    | .wireguard _ => False
  rests _ := True

structure KeptByChange (stands : XrayFiles → ClientChange → XrayPhase → Prop) : Prop where
  waiting : ∀ files change, stands files change .locking
  stepped : ∀ change files after phase event outcome following,
    ClientStep change files phase event after outcome → stands files change phase →
    outcome = .goesOn following → stands after change following

section

variable (stands : XrayFiles → ClientChange → XrayPhase → Prop) {world : World} (next : World)

theorem freeOf_of_unlocked {serverId : Uuid} (free : world.lockHeld serverId = false) :
    world.FreeOf Job.holdsLock serverId := by
  intro job member holds server
  have held : world.lockHeld serverId = true :=
    List.any_eq_true.mpr ⟨job, member, by simp [server, holds]⟩
  rw [free] at held
  cases held

variable {agent : AgentState}

theorem bears_of_files {world : World} {serverId : Uuid}
    (same : agent.files = (world.agents serverId).files) :
    Bears (lockRule stands) world serverId agent := by
  constructor
  · intro job _ _ _ fits
    simpa only [lockRule, same] using fits
  · exact id

theorem bears_of_unlocked {world : World} {serverId : Uuid} (agent : AgentState)
    (free : world.lockHeld serverId = false) : Bears (lockRule stands) world serverId agent := by
  refine ⟨?_, id⟩
  intro job member concerned server
  exact absurd server (freeOf_of_unlocked free job member concerned)

variable {envelope : Envelope}

theorem beside_of_unlocked {phase : Phase}
    {outcome : Outcome Phase} (waits : Job.holdsLock ⟨envelope, phase⟩ = false)
    (files : agent.files = (world.agents envelope.serverId).files)
    (unlocked : ∀ following, outcome = .goesOn following →
      Job.holdsLock ⟨envelope, following⟩ = false) :
    Proper (lockRule stands) world envelope agent
      (world.jobs.filter fun other => other != ⟨envelope, phase⟩) outcome := by
  refine .beside unlocked ?_ (bears_of_files stands files)
  intro job member concerned
  have other : job ≠ ⟨envelope, phase⟩ := by
    intro same
    have holds : Job.holdsLock job = true := concerned
    rw [same, waits] at holds
    cases holds
  exact List.mem_filter.mpr ⟨member, by simpa using other⟩

section

variable (kept : ∀ serverId, Kept (lockRule stands) world serverId)
variable (keeps : KeptByChange stands)
include kept keeps

variable {stands}

theorem stands_of_kept {phase : XrayPhase}
    (member : ⟨envelope, .xray phase⟩ ∈ world.jobs) {change : ClientChange}
    (asked : callClientChange envelope.call = some change) :
    stands (world.agents envelope.serverId).files change phase := by
  cases locked : phase.holdsLock with
  | true =>
    exact (fits_of_kept (kept _) member locked rfl).1 change asked
  | false =>
    cases phase with
    | locking => exact keeps.waiting _ change
    | _ => cases locked

theorem drives_locked {phase : Phase} {event : DriverEvent}
    {outcome : Outcome Phase} (member : ⟨envelope, phase⟩ ∈ world.jobs)
    (free : event = .xray .lockAcquired → world.lockHeld envelope.serverId = false)
    (drives : Drives (world.agents envelope.serverId) envelope.call phase event agent outcome) :
    Proper (lockRule stands) world envelope (agent.settled envelope.call outcome)
      (world.jobs.filter fun other => other != ⟨envelope, phase⟩) outcome := by
  have foreign : ∀ wireguard : Outcome WireGuardPhase, ∀ following,
      wireguardOutcome wireguard = .goesOn following →
      Job.holdsLock ⟨envelope, following⟩ = false := by
    intro wireguard following same
    cases wireguard with
    | goesOn phase =>
      cases same
      rfl
    | answers answer => cases same
  generalize called : envelope.call = call at drives
  cases drives with
  | changes request change wireguard wireguardEvent after outcome _ _
  | probes targetId generation publicKey address code wireguard wireguardEvent outcome _ =>
    exact beside_of_unlocked stands rfl settled_files (foreign outcome)
  | serves request change xray xrayEvent files outcome asked stepped =>
    rw [← called] at asked
    rcases clientStep_lock stepped with ⟨locked, locks⟩ | ⟨waits, same, answer, answers⟩
    · refine .alone ?_ ?_ (fun _ _ => trivial)
      · intro job present concerned server
        obtain ⟨old, different⟩ := List.mem_filter.mp present
        rcases locked with holds | acquires
        · have one := (fits_of_kept (kept _) member holds rfl).2 job old concerned server
          simp [one] at different
        · exact freeOf_of_unlocked (free (by rw [acquires])) job old concerned server
      · intro following goesOn
        cases outcome with
        | answers answer => cases goesOn
        | goesOn next =>
          cases goesOn
          refine ⟨locks next rfl, ?_⟩
          intro other same
          rw [asked] at same
          cases same
          exact keeps.stepped change _ _ xray xrayEvent _ next stepped
            (stands_of_kept kept keeps member asked) rfl
    · subst same
      refine beside_of_unlocked stands waits settled_files ?_
      rw [answers]
      nofun

theorem step_lockKept {event : WorldEvent} (taken : world.step event = some next)
    (edits : ∀ serverId xrayConfig hysteriaConfig,
      event = .editServed serverId xrayConfig hysteriaConfig →
      Bears (lockRule stands) world serverId
        { world.agents serverId with
          files :=
            { (world.agents serverId).files with
              xrayConfig := xrayConfig
              hysteriaConfig := hysteriaConfig } })
    (serverId : Uuid) : Kept (lockRule stands) next serverId := by
  refine step_kept (lockRule stands) world next event taken ?_ ?_ ?_ ?_ kept serverId
  · intro envelope readable agent outcome _ _ accepts
    obtain ⟨files, queues⟩ := accepts_files accepts
    refine .beside ?_ (fun _ member _ => member) (bears_of_files stands files)
    intro phase same
    cases phase with
    | wireguard phase => rfl
    | xray phase =>
      rw [queues phase same]
      rfl
  · intro job driverEvent agent outcome _ present free drives
    exact drives_locked kept keeps present free drives
  · intro _ _ _ _ _ _
    trivial
  · intro changed agent shift _
    cases shift with
    | restarted | interfaceEdited => exact bears_of_files stands rfl
    | resynced _ free => exact bears_of_unlocked stands _ free
    | servedEdited _ xrayConfig hysteriaConfig =>
      exact edits changed xrayConfig hysteriaConfig rfl

end

end

end Nebula.Fleet
