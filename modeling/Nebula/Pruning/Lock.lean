import Nebula.Fleet.Locking
import Nebula.Pruning.System

/-!
# One holder of the lock

`_apply_lock` is shared by the changes of single clients and by the prunes. While a prune has
it no change does, so the record is what the prune read, and whoever writes the record writes what
it makes of the record as it is.
-/

namespace Nebula.Pruning

open Schema ControlPlane Agent Fleet Runs

section

variable (fleet next : World)

variable {serverId : Uuid}

theorem lockHeld_false :
    fleet.lockHeld serverId = false ↔
      ∀ job ∈ fleet.jobs, job.envelope.serverId = serverId → job.holdsLock = false := by
  simp [World.lockHeld]

theorem drive_unlocked {agent after : AgentState} {job : Job} {event : DriverEvent}
    {outcome : Outcome Phase}
    (stepped : agent.drive job.envelope.call job.phase event = some (after, outcome))
    (waits : job.holdsLock = false) (other : event ≠ .xray .lockAcquired) :
    after.files = agent.files ∧
      ∀ phase, outcome = .goesOn phase → Job.holdsLock ⟨job.envelope, phase⟩ = false := by
  have foreign : ∀ wireguard : Outcome WireGuardPhase, ∀ phase,
      wireguardOutcome wireguard = .goesOn phase →
      Job.holdsLock ⟨job.envelope, phase⟩ = false := by
    intro wireguard phase same
    cases wireguard with
    | goesOn following =>
      cases same
      rfl
    | answers answer => cases same
  have drives := drives_of_drive stepped
  generalize job.envelope.call = call at drives
  generalize running : job.phase = current at drives
  cases drives with
  | changes | probes => exact ⟨rfl, foreign _⟩
  | serves request change phase xrayEvent files outcome _ served =>
    have unlocked : phase.holdsLock = false := by
      simpa [Job.holdsLock, running] using waits
    rcases clientStep_lock served with ⟨holds | acquires, _⟩ | ⟨_, same, answer, answers⟩
    · rw [unlocked] at holds
      cases holds
    · exact absurd (by rw [acquires]) other
    subst same
    refine ⟨rfl, ?_⟩
    rw [answers]
    nofun

structure Untouched (serverId : Uuid) : Prop where
  free : next.lockHeld serverId = false
  record : (next.agents serverId).files.record = (fleet.agents serverId).files.record

variable {fleet next}

theorem untouched_of_jobs (free : fleet.lockHeld serverId = false)
    (jobs : ∀ job ∈ next.jobs, job.envelope.serverId = serverId →
      job ∈ fleet.jobs ∨ job.holdsLock = false)
    (record : (next.agents serverId).files.record = (fleet.agents serverId).files.record) :
    Untouched fleet next serverId := by
  refine ⟨(lockHeld_false next).mpr ?_, record⟩
  intro job member server
  rcases jobs job member server with old | unlocked
  · exact (lockHeld_false fleet).mp free job old server
  · exact unlocked

theorem drive_untouched {job : Job} {event : DriverEvent} (member : job ∈ fleet.jobs)
    (driven : fleet.drive job event = some next)
    (free : fleet.lockHeld serverId = false)
    (untaken : event = .xray .lockAcquired → job.envelope.serverId ≠ serverId) :
    Untouched fleet next serverId := by
  have waits : job.envelope.serverId = serverId → job.holdsLock = false :=
    (lockHeld_false fleet).mp free job member
  have agents : ∀ agent : AgentState, (job.envelope.serverId = serverId →
        agent.files = (fleet.agents job.envelope.serverId).files) →
      ((fleet.setAgent job.envelope.serverId agent).agents serverId).files.record =
        (fleet.agents serverId).files.record := by
    intro agent same
    simp only [World.setAgent]
    split
    · rename_i own
      rw [same own.symm, own]
    · rfl
  obtain ⟨_, driven⟩ := Option.ite_none_left_eq_some.mp driven
  split at driven
  · cases driven
  · rename_i agent phase stepped
    cases driven
    have unlocked := fun own => drive_unlocked stepped (waits own)
      fun acquires => untaken acquires own
    refine untouched_of_jobs free ?_ (agents agent fun own => (unlocked own).1)
    intro other present server
    obtain ⟨old, oldMember, same⟩ := List.mem_map.mp present
    split at same
    · subst same
      exact Or.inr ((unlocked server).2 phase rfl)
    · subst same
      exact Or.inl oldMember
  · rename_i agent answer stepped
    cases driven
    have unlocked := fun own => drive_unlocked stepped (waits own)
      fun acquires => untaken acquires own
    refine untouched_of_jobs free ?_ (agents _ fun own => ?_)
    · intro other present _
      exact Or.inl (List.mem_filter.mp present).1
    · rw [settled_files]
      exact (unlocked own).1

theorem step_untouched {event : WorldEvent} (taken : fleet.step event = some next)
    (free : fleet.lockHeld serverId = false)
    (untaken : takenLock fleet event ≠ some serverId) : Untouched fleet next serverId := by
  have still : next.agents = fleet.agents → next.jobs = fleet.jobs →
      Untouched fleet next serverId := by
    intro agents jobs
    refine untouched_of_jobs free ?_ (by rw [agents])
    intro job member _
    exact Or.inl (jobs ▸ member)
  cases step_change fleet taken with
  | planned planeEvent _ _ advances _ | told task answer advances _ =>
    exact still advances.agents advances.jobs
  | dropped plane agents net jobs _ _ => exact still agents jobs
  | delivered task readable envelope agent outcome _ _ _ accepted at_agent _ handled _ =>
    obtain ⟨files, queues⟩ := accepts_files (accepts_of_accept accepted)
    refine untouched_of_jobs free ?_ ?_
    · intro job member _
      cases handled with
      | answers answer jobs _ => exact Or.inl (jobs job member)
      | goesOn phase jobs _ _ =>
        rcases jobs job member with old | new
        · exact Or.inl old
        subst new
        cases phase with
        | wireguard phase => exact Or.inr rfl
        | xray phase =>
          rw [queues phase rfl]
          exact Or.inr rfl
    · rw [at_agent.agents]
      dsimp only
      split
      · rename_i own
        rw [own, files]
      · rfl
  | driven task driverEvent _ _ _ happened =>
    subst happened
    obtain ⟨job, found, driven⟩ := Option.bind_eq_some_iff.mp taken
    refine drive_untouched (List.mem_of_find?_eq_some found) driven free ?_
    intro acquires own
    subst acquires
    exact untaken (by simp [takenLock, found, own])
  | shifted changed agent shift at_agent _ jobs _ _ _ =>
    refine untouched_of_jobs free (fun job member _ => Or.inl (jobs job member)) ?_
    rw [at_agent.agents]
    dsimp only
    split
    · rename_i own
      subst own
      cases shift with
      | resynced => exact absurd rfl untaken
      | _ => rfl
    · rfl

end

structure Locked (world : PruningWorld) : Prop where
  exclusive : ∀ job ∈ world.jobs, job.phase.holdsLock = true →
    world.fleet.lockHeld job.call.serverId = false
  alone : ∀ first ∈ world.jobs, ∀ second ∈ world.jobs, first.phase.holdsLock = true →
    second.phase.holdsLock = true → first.call.serverId = second.call.serverId → first = second
  reads : ∀ job ∈ world.jobs, ∀ current, job.phase.current = some current →
    current = (world.fleet.agents job.call.serverId).files.record

variable {phase : PrunePhase}

theorem holdsLock_of_current {current : Clients}
    (reads : phase.current = some current) : phase.holdsLock = true := by
  cases phase with
  | locking => cases reads
  | _ => rfl

variable {files : XrayFiles} {readable : Bool} {event : XrayEvent}

theorem pruneStep_writes {expected : List Uuid} {after : XrayFiles}
    {outcome : PruneOutcome}
    (stepped : PruneStep expected files readable phase event after outcome) :
    after = files ∨ phase.holdsLock = true := by
  cases stepped with
  | locked | ended => exact Or.inl rfl
  | applies _ _ current _ _ reads => exact Or.inr (holdsLock_of_current reads)
  | rollsBack _ _ _ _ holds => exact Or.inr holds

theorem pruneStep_following {expected : List Uuid} {after : XrayFiles}
    {following : PrunePhase}
    (stepped : PruneStep expected files readable phase event after (.goesOn following)) :
    (phase.holdsLock = true ∨ event = .lockAcquired) ∧
      ∀ current, following.current = some current →
        (phase.current = some current ∨ current = files.record) ∧ after.record = files.record := by
  generalize went : PruneOutcome.goesOn following = outcome at stepped
  cases stepped with
  | locked =>
    refine ⟨Or.inr rfl, ?_⟩
    intro current reads
    unfold pruneBegin at went
    dsimp only at went
    split at went
    · cases went
    · cases went
      cases reads
      exact ⟨Or.inr rfl, rfl⟩
  | applies _ _ current _ _ reads _ _ keeps =>
    cases went
    refine ⟨Or.inl (holdsLock_of_current reads), ?_⟩
    intro other otherReads
    rcases keeps with none | ⟨same, record⟩
    · rw [none] at otherReads
      cases otherReads
    · rw [same] at otherReads
      cases otherReads
      exact ⟨Or.inl reads, record⟩
  | rollsBack _ _ _ _ holds _ _ _ ended =>
    cases went
    refine ⟨Or.inl holds, ?_⟩
    intro current reads
    rw [ended] at reads
    cases reads
  | ended => cases went

section

variable {world next : PruningWorld}

theorem pruneLocked_of_mem {job : PruneJob} (member : job ∈ world.jobs)
    (holds : job.phase.holdsLock = true) : world.pruneLocked job.call.serverId = true :=
  List.any_eq_true.mpr ⟨job, member, by simp [PruneJob.locks, holds]⟩

theorem fleet_locked {event : WorldEvent}
    (unblocked : ∀ serverId, takenLock world.fleet event = some serverId →
      world.pruneLocked serverId = false)
    (taken : world.fleet.step event = some next.fleet)
    (jobs : ∀ job ∈ next.jobs, job ∈ world.jobs) (locked : Locked world) : Locked next := by
  have untouched : ∀ job ∈ next.jobs, job.phase.holdsLock = true →
      Untouched world.fleet next.fleet job.call.serverId := by
    intro job member holds
    refine step_untouched taken (locked.exclusive job (jobs job member) holds) ?_
    intro takes
    have held := pruneLocked_of_mem (jobs job member) holds
    rw [unblocked _ takes] at held
    cases held
  refine ⟨fun job member holds => (untouched job member holds).free, ?_, ?_⟩
  · intro first firstMember second secondMember
    exact locked.alone first (jobs first firstMember) second (jobs second secondMember)
  · intro job member current reads
    rw [(untouched job member (holdsLock_of_current reads)).record]
    exact locked.reads job (jobs job member) current reads

theorem drive_locked {job : PruneJob}
    {outcome : PruneOutcome} (member : job ∈ world.jobs)
    (free : event = .lockAcquired → world.fleet.lockHeld job.call.serverId = false ∧
      world.pruneLocked job.call.serverId = false)
    (stepped : PruneStep job.call.keep (world.fleet.agents job.call.serverId).files readable
      job.phase event files outcome) (fleet : next.fleet = world.fleet.setAgent job.call.serverId
      { world.fleet.agents job.call.serverId with files := files })
    (jobs : ∀ other ∈ next.jobs, (other ∈ world.jobs ∧ other ≠ job) ∨
      ∃ phase, outcome = .goesOn phase ∧ other = ⟨job.call, phase⟩) (locked : Locked world) :
    Locked next := by
  have lock : ∀ serverId, next.fleet.lockHeld serverId = world.fleet.lockHeld serverId := by
    intro serverId
    rw [fleet]
    rfl
  have record : ∀ serverId, (next.fleet.agents serverId).files.record =
      if serverId = job.call.serverId then files.record
      else (world.fleet.agents serverId).files.record := by
    intro serverId
    rw [fleet]
    simp only [World.setAgent]
    split <;> rfl
  have mine : ∀ phase, outcome = .goesOn phase → ∀ other ∈ world.jobs, other ≠ job →
      other.phase.holdsLock = true → other.call.serverId ≠ job.call.serverId := by
    intro phase goesOn other present distinct holds sameServer
    subst goesOn
    rcases (pruneStep_following stepped).1 with held | acquires
    · exact distinct (locked.alone other present job member holds held sameServer)
    · have taken := pruneLocked_of_mem present holds
      rw [sameServer, (free acquires).2] at taken
      cases taken
  refine ⟨?_, ?_, ?_⟩
  · intro other present holds
    rw [lock]
    rcases jobs other present with ⟨old, _⟩ | ⟨phase, goesOn, same⟩
    · exact locked.exclusive other old holds
    subst same goesOn
    rcases (pruneStep_following stepped).1 with held | acquires
    · exact locked.exclusive job member held
    · exact (free acquires).1
  · intro first firstMember second secondMember firstHolds secondHolds sameServer
    rcases jobs first firstMember with ⟨firstOld, firstOther⟩ | ⟨phase, goesOn, firstNew⟩
    · rcases jobs second secondMember with ⟨secondOld, _⟩ | ⟨phase, goesOn, secondNew⟩
      · exact locked.alone first firstOld second secondOld firstHolds secondHolds sameServer
      · rw [secondNew] at sameServer
        exact absurd sameServer (mine phase goesOn first firstOld firstOther firstHolds)
    · rcases jobs second secondMember with ⟨secondOld, secondOther⟩ | ⟨other, goesOnToo, secondNew⟩
      · rw [firstNew] at sameServer
        exact absurd sameServer.symm (mine phase goesOn second secondOld secondOther secondHolds)
      · rw [goesOn] at goesOnToo
        cases goesOnToo
        rw [firstNew, secondNew]
  · intro other present current reads
    rw [record]
    rcases jobs other present with ⟨old, distinct⟩ | ⟨phase, goesOn, same⟩
    · have before := locked.reads other old current reads
      split
      · rename_i sameServer
        rcases pruneStep_writes stepped with untouched | held
        · rw [untouched, ← sameServer]
          exact before
        · exact absurd (locked.alone other old job member
            (holdsLock_of_current reads) held sameServer) distinct
      · exact before
    · subst same goesOn
      rw [if_pos rfl]
      obtain ⟨source, kept⟩ := (pruneStep_following stepped).2 current reads
      rw [kept]
      rcases source with read | now
      · exact locked.reads job member current read
      · exact now

theorem step_locked {event : PruningEvent} (taken : world.step event = some next)
    (locked : Locked world) : Locked next := by
  cases step_pruningChange taken with
  | ofFleet fleetEvent _ unblocked stepped _ _ jobs =>
    refine fleet_locked unblocked stepped ?_ locked
    intro job member
    rw [jobs] at member
    exact (List.mem_filter.mp member).1
  | ofPass fleet jobs =>
    exact ⟨fleet ▸ jobs ▸ locked.exclusive, jobs ▸ locked.alone, fleet ▸ jobs ▸ locked.reads⟩
  | delivered call _ fleet _ _ jobs =>
    have held : ∀ job ∈ next.jobs, job.phase.holdsLock = true → job ∈ world.jobs := by
      intro job member holds
      rcases jobs job member with old | new
      · exact old
      · subst new
        cases holds
    refine ⟨?_, ?_, ?_⟩
    · intro job member holds
      rw [fleet]
      exact locked.exclusive job (held job member holds) holds
    · intro first firstMember second secondMember firstHolds secondHolds
      exact locked.alone first (held first firstMember firstHolds) second
        (held second secondMember secondHolds) firstHolds secondHolds
    · intro job member current reads
      rw [fleet]
      exact locked.reads job (held job member (holdsLock_of_current reads)) current reads
  | driven xrayEvent readable job files outcome _ member free stepped fleet _ _ jobs =>
    exact drive_locked member free stepped fleet jobs locked

end

theorem beforePrunes_locked (fleet : World) : Locked (beforePrunes fleet) :=
  ⟨nofun, nofun, nofun⟩

/-! ## The record changes by whole calls -/

def ReadsRecord (files : XrayFiles) (_ : ClientChange) : XrayPhase → Prop
  | .validating current | .applying current | .applyingHysteria current => current = files.record
  | _ => True

theorem readsRecord_keptByChange : KeptByChange ReadsRecord where
  waiting _ _ := trivial
  stepped change files after phase event outcome following stepped reads goesOn := by
    cases stepped with
    | locked =>
      cases goesOn
      exact rfl
    | written | writtenHysteria =>
      cases goesOn
      exact reads
    | promoted | promotedHysteria | rolledBack | rolledBackHysteria =>
      cases goesOn
      trivial
    | kicked | ended => cases goesOn

def ReadsCurrent (world : World) : Prop :=
  ∀ serverId, Kept (lockRule ReadsRecord) world serverId

/-- What a call under way makes of the agent's record. -/
def MadeByCall (world : World) (serverId : Uuid) (record : Clients) : Prop :=
  ∃ envelope ∈ world.underWay, envelope.serverId = serverId ∧
    ∃ change, callClientChange envelope.call = some change ∧
      record = change.desired (world.agents serverId).files.record

section

variable {world next : World} {event : WorldEvent} (reads : ReadsCurrent world)
variable (taken : world.step event = some next) (serverId : Uuid)
include reads taken

theorem step_reads : ReadsCurrent next := by
  refine step_lockKept next reads readsRecord_keptByChange taken ?_
  intro edited xrayConfig hysteriaConfig _
  refine ⟨?_, id⟩
  rintro ⟨envelope, phase⟩ _ concerned _ fits
  cases phase with
  | wireguard phase => cases concerned
  | xray phase => exact fits

theorem step_record : (next.agents serverId).files.record = (world.agents serverId).files.record ∨
    MadeByCall world serverId (next.agents serverId).files.record := by
  cases step_agent world next taken with
  | kept same => exact Or.inl (by rw [same])
  | accepted envelope readable outcome accepted =>
    exact Or.inl (by rw [(accepts_files (accepts_of_accept accepted)).1])
  | shifted shift =>
    left
    generalize next.agents serverId = agent at shift
    cases shift with
    | resynced =>
      simp only [XrayFiles.resync]
      split <;> rfl
    | _ => rfl
  | driven task driverEvent job agent outcome _ first own driven at_agent =>
    subst own
    have member := List.mem_of_find?_eq_some first
    rw [at_agent.here, settled_files]
    have drives := drives_of_drive driven
    obtain ⟨envelope, phase⟩ := job
    dsimp only at drives
    generalize called : envelope.call = call at drives
    cases drives with
    | changes | probes => exact Or.inl rfl
    | serves request change xray xrayEvent files outcome asked stepped =>
      rw [← called] at asked
      have current := stands_of_kept reads readsRecord_keptByChange member asked
      cases stepped with
      | promoted read | promotedHysteria read =>
        exact Or.inr ⟨envelope, underWay_of_job world _ member, rfl, change, asked,
          congrArg change.desired current⟩
      | _ => exact Or.inl rfl

end

theorem pruneStep_record {expected : List Uuid} {files after : XrayFiles} {readable : Bool}
    {phase : PrunePhase} {event : XrayEvent} {outcome : PruneOutcome}
    (stepped : PruneStep expected files readable phase event after outcome) :
    after.record = files.record ∨
      ∃ current, phase.current = some current ∧ after.record = survivors expected current := by
  cases stepped with
  | applies _ _ current _ _ reads applied => exact applied.record.imp_right (⟨current, reads, ·⟩)
  | rollsBack _ _ _ _ _ _ same => exact Or.inl same
  | locked | ended => exact Or.inl rfl

/-- Each record stays, or a call or prune under way changes it as a whole. -/
def RecordsSerial (before : PruningWorld) (_ : PruningEvent) (after : PruningWorld) : Prop :=
  ∀ serverId, (after.fleet.agents serverId).files.record =
      (before.fleet.agents serverId).files.record ∨
    MadeByCall before.fleet serverId (after.fleet.agents serverId).files.record ∨
    ∃ job ∈ before.jobs, job.call.serverId = serverId ∧
      (after.fleet.agents serverId).files.record =
        survivors job.call.keep (before.fleet.agents serverId).files.record

section

variable {world next : PruningWorld} {event : PruningEvent} (locked : Locked world)
variable (reads : ReadsCurrent world.fleet) (taken : world.step event = some next)
include locked reads taken

theorem step_readsCurrent : ReadsCurrent next.fleet := by
  cases step_pruningChange taken with
  | ofFleet _ _ _ stepped => exact step_reads reads stepped
  | ofPass fleet | delivered _ _ fleet => exact fleet ▸ reads
  | driven _ _ job files _ _ member _ stepped fleet =>
    intro serverId
    rw [fleet]
    refine kept_of_bears (reads serverId) (fun _ _ _ => Iff.rfl) ?_
    by_cases own : serverId = job.call.serverId
    · subst own
      simp only [World.setAgent, if_true]
      rcases pruneStep_writes stepped with untouched | holds
      · exact bears_of_files ReadsRecord untouched
      · exact bears_of_unlocked ReadsRecord _ (locked.exclusive job member holds)
    · simp only [World.setAgent, if_neg own]
      exact bears_refl (lockRule ReadsRecord) world.fleet

theorem step_recordsSerial : RecordsSerial world event next := by
  intro serverId
  cases step_pruningChange taken with
  | ofFleet _ _ _ stepped => exact (step_record reads stepped serverId).imp_right Or.inl
  | ofPass fleet | delivered _ _ fleet => exact Or.inl (by rw [fleet])
  | driven _ _ job files _ _ member _ stepped fleet =>
    rw [fleet]
    by_cases own : serverId = job.call.serverId
    · subst own
      simp only [World.setAgent, if_true]
      rcases pruneStep_record stepped with same | ⟨current, read, written⟩
      · exact Or.inl same
      · rw [locked.reads job member current read] at written
        exact Or.inr (Or.inr ⟨job, member, rfl, written⟩)
    · exact Or.inl (by simp only [World.setAgent, if_neg own])

end

/-- From any fleet whose agents are idle, no change of a record is lost or mixed with another. -/
theorem records_serial (fleet : World) (events : List PruningEvent) :
    EachStep PruningWorld.step RecordsSerial events (beforePrunes { fleet with jobs := [] }) := by
  refine eachStep_of_invariant (fun world => Locked world ∧ ReadsCurrent world.fleet) ?_ ?_
    ⟨beforePrunes_locked _, fun _ => .free (List.forall_mem_nil _) trivial⟩
    (runMeets_of_forall _ (fun _ _ => trivial) _ _)
  · intro world event next ⟨locked, reads⟩ _ taken
    exact ⟨step_locked taken locked, step_readsCurrent locked reads taken⟩
  · intro world event next ⟨locked, reads⟩ _ taken
    exact step_recordsSerial locked reads taken

end Nebula.Pruning
