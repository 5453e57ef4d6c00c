import Nebula.Admin.Steps
import Mathlib.Tactic.NormNum

/-!
# Ended sessions stay ended

A write of `sessions_valid_after` means to end every session created before it, but a rotation gives
a successor a new creation time. So a session that was cut off must not be rotated any more, and a
late instant must not lie before the successors there are by then.
-/

namespace Nebula.Admin

open Store Schema Runs List Doubles

def Request.record : Request → Option AdminSession
  | .checking _ record _ => some record
  | _ => none

variable (system : System)

def System.records : List AdminSession :=
  system.sessions.map Prod.snd ++ system.requests.jobs.filterMap fun job => job.2.record

def System.cutOffBy : Event → Option (Uuid × Instant)
  | .commit id =>
    match system.requests.find id with
    | some (.passwordLocked _ principal now) =>
      (system.admin principal.adminId).map fun _ => (principal.adminId, now)
    | some (.manageLocked _ adminId mutation now) =>
      ((system.admin adminId).bind fun admin => mutation.cutOff now admin).map
        fun validAfter => (adminId, validAfter)
    | _ => none
  | _ => none

def System.rotatedBy : Event → Option AdminSession
  | .rotate id now =>
    match system.requests.find id with
    | some (.stepUpLocked token _) => system.session token now
    | _ => none
  | _ => none

def System.cutsOff (record : AdminSession) : Bool :=
  (system.admin record.adminId).any fun admin => admin.cutsOff record

/-- Not before the cut-off it replaces, nor before a successor of a session it means to end. -/
def System.endsLineages (adminId : Uuid) (validAfter : Instant) : Bool :=
  (((system.admin adminId).bind AdminUser.sessionsValidAfter).all fun earlier =>
    decide (earlier ≤ validAfter)) &&
  system.records.all fun record =>
    decide (record.adminId ≠ adminId) || decide (record.createdAt < validAfter) ||
      record.lineage.all fun born => decide (validAfter ≤ born)

/-- In the year 2242: until then a double tells microseconds apart. -/
def clockEnd : Instant :=
  2 ^ 33 * 1000000

def Event.stamp : Event → Option Instant
  | .signIn _ _ now | .rotate _ now | .issueOwn _ now => some now
  | _ => none

/-- Only sessions not cut off are rotated, and a cut-off ends what it means to. -/
def lineagesEnd (event : Event) : Bool :=
  ((system.rotatedBy event).all fun record => !system.cutsOff record) &&
    ((system.cutOffBy event).all fun cut => system.endsLineages cut.1 cut.2) &&
      event.stamp.all (decide <| · < clockEnd)

/-- What a check accepts, and all it was rotated from, is no older than any cut-off committed
before. -/
def AcceptsNoneEnded (before : System) (event : Event) (_ : System) : Prop :=
  match event with
  | .check id now =>
    match before.requests.find id with
    | some (.checking _ record _) =>
      (before.principal record now).isSome = true →
        ∀ cut ∈ before.cutOffs, cut.1 = record.adminId →
          ∀ born ∈ record.lineage, cut.2 ≤ born
    | _ => True
  | _ => True

instance (before : System) (event : Event) (after : System) :
    Decidable (AcceptsNoneEnded before event after) := by
  unfold AcceptsNoneEnded
  split
  · split <;> infer_instance
  · infer_instance

structure Ended : Prop where
  bounded : ∀ cut ∈ system.cutOffs, ∃ admin validAfter, system.admin cut.1 = some admin ∧
    admin.sessionsValidAfter = some validAfter ∧ cut.2 ≤ validAfter
  refused : ∀ record ∈ system.records, ∀ cut ∈ system.cutOffs, cut.1 = record.adminId →
    ∀ born ∈ record.lineage, born < cut.2 → system.cutsOff record = true

theorem ofMillis_eq {milliseconds : Nat} (early : milliseconds < 2 ^ 33 * 1000) :
    ofMillis milliseconds = milliseconds * 1000 := by
  have small : parts * milliseconds < 1000 * 2 ^ (53 + 52) :=
    calc parts * milliseconds < parts * (2 ^ 33 * 1000) :=
          Nat.mul_lt_mul_of_pos_left early (by decide)
      _ = 1000 * 2 ^ (53 + 52) := by decide
  have bounds := nearest_bounds (by decide) small
  norm_num [parts] at bounds
  rw [ofMillis]
  apply roundDiv_eq <;> norm_num [parts] <;> omega

/-- The two roundings together stay below a microsecond. -/
theorem ofMillis_millis_le {now : Nat} (early : now < clockEnd) :
    ofMillis (millis now) ≤ now := by
  have small : parts * now < 1000000 * 2 ^ (53 + 52) :=
    calc parts * now < parts * clockEnd := Nat.mul_lt_mul_of_pos_left early (by decide)
      _ = 1000000 * 2 ^ (53 + 52) := by decide
  have seconds := nearest_bounds (by decide) small
  have bound : now < 8589934592000000 := early
  norm_num [parts] at seconds
  have product := @nearest_bounds (1000 * nearest (parts * now) 1000000) 1 62 (by decide)
    (by norm_num [parts]; omega)
  norm_num [parts] at product
  have below : millis now * 1000 ≤ now := by
    norm_num [parts, millis]
    omega
  rw [ofMillis_eq (by omega)]
  exact below

section

inductive Descends (before : System) (record : AdminSession) : Prop where
  | kept (old : AdminSession) (member : old ∈ before.records) (admin : record.adminId = old.adminId)
    (created : record.createdMs = old.createdMs) (lineage : record.lineage = old.lineage)
  | created (now : Instant) (stamp : record.createdAt ≤ now) (lineage : record.lineage = [now])
  | rotated (old : AdminSession) (now : Instant) (member : old ∈ before.records)
    (live : before.cutsOff old = false) (admin : record.adminId = old.adminId)
    (stamp : record.createdAt ≤ now) (lineage : record.lineage = now :: old.lineage)

variable {record : AdminSession} {system : System} {token : SessionToken}

theorem descends_of_mem {before : System} (member : record ∈ before.records) :
    Descends before record :=
  .kept record member rfl rfl rfl

theorem mem_records {system : System} {record : AdminSession} :
    record ∈ system.records ↔
      (∃ token, (token, record) ∈ system.sessions) ∨
        ∃ job ∈ system.requests.jobs, job.2.record = some record := by
  simp [System.records]

theorem session_mem_records {now : Instant} (found : system.session token now = some record) :
    record ∈ system.records :=
  mem_records.mpr (Or.inl ⟨token, session_mem found⟩)

theorem records_dropSession (member : record ∈ (system.dropSession token).records) :
    record ∈ system.records := by
  rw [mem_records] at member ⊢
  rcases member with ⟨stored, inSessions⟩ | read
  · exact Or.inl ⟨stored, ((mem_remove Prod.fst).mp inSessions).1⟩
  · exact Or.inr read

theorem records_putSession {put : AdminSession}
    (member : record ∈ (system.putSession token put).records) :
    record ∈ system.records ∨ record = put := by
  rw [mem_records] at member ⊢
  rcases member with ⟨stored, inSessions⟩ | read
  · rcases (mem_upsert Prod.fst).mp inSessions with old | new
    · exact Or.inl (Or.inl ⟨stored, old.1⟩)
    · exact Or.inr (Prod.mk.inj new).2
  · exact Or.inl (Or.inr read)

theorem records_resume {id : Nat} {next : Option Request}
    (member : record ∈ (system.resume id next).records) :
    record ∈ system.records ∨ ∃ request, next = some request ∧ request.record = some record := by
  rw [mem_records] at member ⊢
  rcases member with stored | ⟨job, inJobs, read⟩
  · exact Or.inl (Or.inl stored)
  · rcases system.requests.mem_resume id inJobs with old | new
    · exact Or.inl (Or.inr ⟨job, old.1, read⟩)
    · exact Or.inr ⟨job.2, new.2, read⟩

theorem records_begin {purpose : Purpose} (member : record ∈ { system with
      requests := system.requests.begin (.admitted token purpose) : System }.records) :
    record ∈ system.records := by
  rw [mem_records] at member ⊢
  rcases member with stored | ⟨job, inJobs, read⟩
  · exact Or.inl stored
  rcases (system.requests.mem_begin _ job).mp inJobs with old | new
  · exact Or.inr ⟨job, old, read⟩
  · subst new
    cases read

theorem advance_record {before : System} {request next : Request}
    (advance : Advance before request (some next)) (read : next.record = some record) :
    record ∈ before.records := by
  cases advance with
  | read token purpose found now live =>
    cases read
    exact session_mem_records live
  | accepted token checked purpose principal _ goesOn =>
    cases purpose <;> simp only [Purpose.accepted] at goesOn <;> (try split at goesOn) <;>
      cases goesOn <;> cases read
  | timed | stepUpLocked | passwordLocked | manageLocked => cases read

end

section

variable {before after : System}

theorem ended_descends (ended : Ended before) (rows : after.admins = before.admins)
    (cuts : after.cutOffs = before.cutOffs)
    (origin : ∀ record ∈ after.records, Descends before record) : Ended after := by
  have sameAdmin : ∀ adminId, after.admin adminId = before.admin adminId := by
    intro adminId
    rw [System.admin, rows]
    rfl
  have late : ∀ record : AdminSession, ∀ now, record.createdAt ≤ now →
      ∀ cut ∈ before.cutOffs, cut.1 = record.adminId → now < cut.2 →
      after.cutsOff record = true := by
    intro record now stamp cut member named earlier
    obtain ⟨admin, validAfter, found, current, bound⟩ := ended.bounded cut member
    rw [named] at found
    rw [System.cutsOff, sameAdmin, found]
    have created : record.createdAt < validAfter := by
      calc record.createdAt ≤ now := stamp
        _ < cut.2 := earlier
        _ ≤ validAfter := bound
    simp [AdminUser.cutsOff, current, created]
  constructor
  · intro cut member
    rw [sameAdmin]
    exact ended.bounded cut (cuts ▸ member)
  intro record member cut cutMember named born inLineage earlier
  rw [cuts] at cutMember
  cases origin record member with
  | kept old oldMember admin created lineage =>
    have refused := ended.refused old oldMember cut cutMember (named.trans admin) born
      (lineage ▸ inLineage) earlier
    have stamp : record.createdAt = old.createdAt := congrArg ofMillis created
    rw [System.cutsOff, sameAdmin, admin]
    simpa only [System.cutsOff, AdminUser.cutsOff, stamp] using refused
  | created now stamp lineage =>
    rw [lineage, mem_singleton] at inLineage
    exact late record now stamp cut cutMember named (inLineage ▸ earlier)
  | rotated old now oldMember live admin stamp lineage =>
    rw [lineage] at inLineage
    rcases mem_cons.mp inLineage with same | older
    · exact late record now stamp cut cutMember named (same ▸ earlier)
    have refused := ended.refused old oldMember cut cutMember (named.trans admin) born older earlier
    rw [live] at refused
    cases refused

variable (before)

theorem endsLineages_iff {adminId : Uuid} {validAfter : Instant} :
    before.endsLineages adminId validAfter = true ↔
      (∀ admin earlier, before.admin adminId = some admin →
        admin.sessionsValidAfter = some earlier → earlier ≤ validAfter) ∧
      ∀ record ∈ before.records, record.adminId = adminId →
        record.createdAt < validAfter ∨ ∀ born ∈ record.lineage, validAfter ≤ born := by
  unfold System.endsLineages
  rw [Bool.and_eq_true, all_eq_true]
  constructor
  · rintro ⟨later, ends⟩
    constructor
    · intro admin earlier found current
      simpa [found, current] using later
    · intro record member named
      simpa [named] using ends record member
  · rintro ⟨later, ends⟩
    constructor
    · cases found : before.admin adminId with
      | none => rfl
      | some admin =>
        cases current : admin.sessionsValidAfter with
        | none => simp [current]
        | some earlier => simpa [current] using later admin earlier found current
    · intro record member
      by_cases named : record.adminId = adminId
      · simpa [named] using ends record member named
      · simp [named]

section

variable {adminId : Uuid} {write : AdminUser → AdminUser} {cutOff : Option Instant}
  (kept : ∀ admin, (write admin).id = admin.id)
  (written : ∀ admin, before.admin adminId = some admin →
    (write admin).sessionsValidAfter = cutOff.or admin.sessionsValidAfter)
  (present : ∀ validAfter, cutOff = some validAfter → (before.admin adminId).isSome = true)
  (ends : ∀ validAfter, cutOff = some validAfter → before.endsLineages adminId validAfter = true)

variable {before}

include kept written ends in
theorem commitRow_validAfter {wanted : Uuid} {admin : AdminUser} {earlier : Instant}
    (found : before.admin wanted = some admin)
    (current : admin.sessionsValidAfter = some earlier) :
    ∃ now validAfter, (before.commitRow adminId write cutOff).admin wanted = some now ∧
      now.sessionsValidAfter = some validAfter ∧ earlier ≤ validAfter := by
  have named := (admin_id found).2
  rw [admin_commitRow before adminId write cutOff kept, found]
  by_cases chosen : admin.id = adminId
  swap
  · exact ⟨admin, earlier, by simp [chosen], current, le_refl earlier⟩
  have own : before.admin adminId = some admin := by rw [← chosen, named, found]
  have value := written admin own
  cases cut : cutOff with
  | none =>
    rw [cut, current] at value
    exact ⟨write admin, earlier, by simp [chosen], value, le_refl earlier⟩
  | some validAfter =>
    rw [cut] at value
    have later := ((endsLineages_iff before).mp (ends validAfter cut)).1
    exact ⟨write admin, validAfter, by simp [chosen], value, later admin earlier own current⟩

include kept written ends in
theorem commitRow_cutsOff {record : AdminSession} (refused : before.cutsOff record = true) :
    (before.commitRow adminId write cutOff).cutsOff record = true := by
  unfold System.cutsOff at refused ⊢
  cases found : before.admin record.adminId with
  | none => simp [found] at refused
  | some admin =>
    cases current : admin.sessionsValidAfter with
    | none => simp [found, AdminUser.cutsOff, current] at refused
    | some earlier =>
      obtain ⟨now, validAfter, foundNow, currentNow, later⟩ :=
        commitRow_validAfter kept written ends
          found current
      have created : record.createdAt < earlier := by
        simpa [found, AdminUser.cutsOff, current] using refused
      simpa [foundNow, AdminUser.cutsOff, currentNow] using lt_of_lt_of_le created later

include kept written present in
theorem commitRow_sets {validAfter : Instant} (cut : cutOff = some validAfter) :
    ∃ now, (before.commitRow adminId write cutOff).admin adminId = some now ∧
      now.sessionsValidAfter = some validAfter := by
  obtain ⟨admin, found⟩ := Option.isSome_iff_exists.mp (present validAfter cut)
  have value := written admin found
  rw [cut] at value
  refine ⟨write admin, ?_, value⟩
  rw [admin_commitRow before adminId write cutOff kept, found]
  simp [(admin_id found).2]

theorem mem_cutOffs_commitRow {cut : Uuid × Instant}
    (member : cut ∈ (before.commitRow adminId write cutOff).cutOffs) :
    cut ∈ before.cutOffs ∨ cutOff = some cut.2 ∧ cut.1 = adminId := by
  rcases mem_append.mp member with old | new
  · exact Or.inl old
  · obtain ⟨validAfter, chosen, same⟩ := mem_map.mp new
    subst same
    exact Or.inr ⟨by simpa using chosen, rfl⟩

include kept written present ends in
theorem ended_commitRow (ended : Ended before) : Ended (before.commitRow adminId write cutOff) := by
  constructor
  · intro cut member
    rcases mem_cutOffs_commitRow member with old | ⟨new, named⟩
    · obtain ⟨admin, earlier, found, current, bound⟩ := ended.bounded cut old
      obtain ⟨now, validAfter, foundNow, currentNow, later⟩ :=
        commitRow_validAfter kept written ends
          found current
      exact ⟨now, validAfter, foundNow, currentNow, le_trans bound later⟩
    · obtain ⟨now, found, current⟩ := commitRow_sets kept written present new
      exact ⟨now, cut.2, named ▸ found, current, le_refl cut.2⟩
  · intro record member cut cutMember named born inLineage earlier
    rcases mem_cutOffs_commitRow cutMember with old | ⟨new, own⟩
    · exact commitRow_cutsOff kept written ends
        (ended.refused record member cut old named born inLineage earlier)
    obtain ⟨now, found, current⟩ := commitRow_sets kept written present new
    have mine : record.adminId = adminId := named.symm.trans own
    have ending := ((endsLineages_iff before).mp (ends cut.2 new)).2 record member mine
    rcases ending with created | later
    · simpa [System.cutsOff, mine, found, AdminUser.cutsOff, current] using created
    · exact absurd earlier (Nat.not_lt.mpr (later born inLineage))

end

variable {before}

variable (ended : Ended before)
include ended

theorem ended_resume {id : Nat} {next : Option Request}
    (reads : ∀ request, next = some request → request.record = none) :
    Ended (before.resume id next) := by
  refine ended_descends ended rfl rfl fun _ member => ?_
  rcases records_resume member with old | ⟨request, goesOn, read⟩
  · exact descends_of_mem old
  · rw [reads request goesOn] at read
    cases read

theorem ended_dropSession {token : SessionToken} :
    Ended (before.dropSession token) :=
  ended_descends ended rfl rfl fun _ member =>
    descends_of_mem (records_dropSession member)

theorem ended_issue {adminId : Uuid} {method : SessionMethod}
    {steppedUp : Bool} {now : Instant} (early : now < clockEnd) :
    Ended (before.issue adminId method steppedUp now) := by
  refine ended_descends ended rfl rfl fun _ member => ?_
  rcases records_putSession member with old | rfl
  · exact descends_of_mem old
  · exact .created now (ofMillis_millis_le early) rfl

theorem ended_invite (role : AdminRole) : Ended (before.invite role) := by
  have row : ∀ adminId admin, before.admin adminId = some admin →
      (before.invite role).admin adminId = some admin := by
    intro adminId admin found
    exact lookup_append_of_some adminId found
  constructor
  · intro cut member
    obtain ⟨admin, validAfter, found, current, bound⟩ := ended.bounded cut member
    exact ⟨admin, validAfter, row cut.1 admin found, current, bound⟩
  intro record member cut cutMember named born inLineage earlier
  have refused := ended.refused record member cut cutMember named born inLineage earlier
  unfold System.cutsOff at refused ⊢
  cases found : before.admin record.adminId with
  | none => simp [found] at refused
  | some admin =>
    rw [row record.adminId admin found]
    rwa [found] at refused

omit ended

theorem transition_ended {event : Event} (ended : Ended before)
    (meets : lineagesEnd before event = true) (step : Transition before event after) :
    Ended after := by
  simp only [lineagesEnd, Bool.and_eq_true] at meets
  obtain ⟨⟨rotates, cuts⟩, early⟩ := meets
  cases step with
  | signedIn adminId method now => exact ended_issue ended (of_decide_eq_true early)
  | dropped token => exact ended_dropSession ended
  | looked token csrf now =>
    refine ended_descends ended rfl rfl ?_
    intro record member
    exact descends_of_mem (records_begin member)
  | turnedAway token purpose csrf now => exact ended
  | admitted token purpose csrf now found live =>
    refine ended_descends ended rfl rfl ?_
    intro record member
    have stored := records_begin member
    rcases records_putSession stored with old | new
    · exact descends_of_mem old
    · subst new
      exact .kept found (session_mem_records live) rfl rfl rfl
  | moved _ id request next found advance =>
    refine ended_descends ended rfl rfl ?_
    intro record member
    rcases records_resume member with old | ⟨later, goesOn, read⟩
    · exact descends_of_mem old
    · subst goesOn
      exact descends_of_mem (advance_record advance read)
  | rejected id now token =>
    exact ended_resume (ended_dropSession ended) fun _ ends =>
      nomatch ends
  | rotated id now token adminId record found live =>
    have open_ : before.cutsOff record = false := by
      simpa [System.rotatedBy, found, live] using rotates
    have rotated : Ended ((before.dropSession token).putSession before.nextToken
        (record.rotated before.nextToken now)) := by
      refine ended_descends ended rfl rfl ?_
      intro other member
      rcases records_putSession member with old | new
      · exact descends_of_mem (records_dropSession old)
      · subst new
        exact .rotated record now (session_mem_records live) open_ rfl
          (ofMillis_millis_le (of_decide_eq_true early)) rfl
    apply ended_resume rotated
    rintro request ⟨⟩
    rfl
  | passwordCommitted id token principal now found =>
    have committed : Ended (before.commitRow principal.adminId
        (fun admin => { admin with sessionsValidAfter := some now })
        ((before.admin principal.adminId).map fun _ => now)) := by
      refine ended_commitRow (fun _ => rfl) ?_ ?_ ?_ ended
      · intro admin present
        simp [present]
      · intro validAfter cut
        obtain ⟨admin, present, _⟩ := Option.map_eq_some_iff.mp cut
        simp [present]
      · intro validAfter cut
        obtain ⟨admin, present, same⟩ := Option.map_eq_some_iff.mp cut
        subst same
        simpa [System.cutOffBy, found, present] using cuts
    apply ended_resume committed
    rintro request ⟨⟩
    rfl
  | manageCommitted id actorId adminId mutation now found =>
    have committed : Ended (before.commitRow adminId (mutation.apply now)
        ((before.admin adminId).bind fun admin => mutation.cutOff now admin)) := by
      refine ended_commitRow (mutation.apply_id now) ?_ ?_ ?_ ended
      · intro admin present
        rw [present, Option.bind_some]
        cases mutation <;> simp only [Mutation.apply, Mutation.cutOff] <;> (try split) <;> rfl
      · intro validAfter cut
        obtain ⟨admin, present, _⟩ := Option.bind_eq_some_iff.mp cut
        simp [present]
      · intro validAfter cut
        simpa [System.cutOffBy, found, cut] using cuts
    exact ended_resume committed fun _ ends => nomatch ends
  | takenBack id replacement =>
    exact ended_resume (ended_dropSession ended) fun _ ends =>
      nomatch ends
  | ownRevoked id token principal =>
    apply ended_resume (ended_dropSession ended)
    rintro request ⟨⟩
    rfl
  | ownIssued id now principal =>
    exact ended_resume (ended_issue ended (of_decide_eq_true early)) fun _ ends => nomatch ends
  | invited role => exact ended_invite ended role

end

theorem principal_live {system : System} {record : AdminSession} {now : Instant}
    (accepted : (system.principal record now).isSome = true) : system.cutsOff record = false := by
  unfold System.principal System.activeAdmin at accepted
  unfold System.cutsOff
  cases found : system.admin record.adminId with
  | none => rfl
  | some admin =>
    simp only [found, Option.filter_some] at accepted
    split at accepted
    · cases accepted
    rename_i active
    split at active
    · cases active
      split at accepted
      · cases accepted
      · rename_i live
        simpa using live
    · cases active

theorem ended_accepts {before after : System} {event : Event} (ended : Ended before) :
    AcceptsNoneEnded before event after := by
  unfold AcceptsNoneEnded
  split
  swap
  · trivial
  split
  swap
  · trivial
  rename_i id now _ token record purpose found
  intro accepted cut member named born inLineage
  have live := principal_live accepted
  have read : record ∈ before.records :=
    mem_records.mpr (Or.inr ⟨_, before.requests.find_mem id _ found, rfl⟩)
  by_contra earlier
  have refused := ended.refused record read cut member named born inLineage
    (Nat.lt_of_not_le earlier)
  rw [live] at refused
  cases refused

/-- While `lineagesEnd`, no check accepts what comes from before a committed cut-off. -/
theorem ended_sessions_refused (events : List Event) (start : System) (fresh : start.cutOffs = [])
    (meets : RunMeets System.step (lineagesEnd · ·) events start) :
    EachStep System.step AcceptsNoneEnded events start := by
  have ended : Ended start := by
    constructor
    · rw [fresh]
      exact forall_mem_nil _
    · intro record _
      rw [fresh]
      exact forall_mem_nil _
  refine eachStep_of_invariant Ended ?_ ?_ ended meets
  · intro before event after holds meetsStep taken
    exact transition_ended holds meetsStep (step_transition taken)
  · intro before event after holds _ _
    exact ended_accepts holds

def ownerAndOperator : System :=
  deployment [invitedAdmin 1 .owner, invitedAdmin 2 .operator]

def bothSignedIn : List Event :=
  [.signIn 2 .totp 5000, .signIn 1 .totp 5000] ++ steppingUp 1 1 0 6000

def ownerEndsAll (request : Nat) : List Event :=
  [.arrive 3 (.manage 2 .endAllSessions) 3 7000, .readSession request 7000, .check request 7000,
    .lockRow request 8000, .commit request]

def signsInAgain : List Event :=
  bothSignedIn ++ ownerEndsAll 1 ++
    [.arrive 0 .look 0 9000, .readSession 2 9000, .check 2 9000, .signIn 2 .totp 10000,
      .arrive 5 .look 5 11000, .readSession 3 11000, .check 3 11000]

/-- The operator's step-up is accepted before the end of its sessions commits and rotates after. -/
def stepUpUnderWay : List Event :=
  bothSignedIn ++ [.arrive 0 .stepUp 0 7000, .readSession 1 7000, .check 1 7000] ++
    ownerEndsAll 2 ++ [.lockRow 1 9000, .rotate 1 9000, .commit 1] ++
    [.arrive 6 .look 6 10000, .readSession 3 10000]

theorem ended_sessions_refused_signsInAgain :
    EachStep System.step AcceptsNoneEnded signsInAgain ownerAndOperator ∧
      ∃ final, runEvents System.step signsInAgain ownerAndOperator = some final ∧
        final.cutOffs = [(2, 8000)] ∧ final.sessions.map Prod.fst = [3, 5] :=
  ⟨ended_sessions_refused signsInAgain ownerAndOperator rfl (by decide +kernel),
    runEvents_exists System.step _ _ _ (by decide +kernel)⟩

theorem ended_session_accepted_stepUpUnderWay :
    ¬ EachStep System.step AcceptsNoneEnded (stepUpUnderWay ++ [.check 3 10000])
      ownerAndOperator :=
  not_eachStep System.step
    (by decide +kernel)

end Nebula.Admin
