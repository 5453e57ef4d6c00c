import Mathlib.Data.List.Permutation
import Nebula.Work

/-!
# Changes made through one candidate file

A record is changed by requests that read it, compute what it is to be, write that as the one
candidate file, have a command apply the file and put it in the record's place. Between these
steps other requests take theirs, and all use the same candidate.
-/

namespace Nebula.Candidate

open Work Option

variable {Content Request : Type}

structure Files (Content : Type) where
  record : Content
  candidate : Option Content
  given : Option Content

inductive Phase (Content : Type) where
  | preparing (baseline : Content)
  | applying (baseline : Content)
  | applied (baseline : Content)
  | restoring (baseline : Content)

inductive Move where
  | prepared
  | refused
  | read
  | succeeded
  | failed
  | restored
  | gaveUp
  deriving DecidableEq

inductive Status (Content : Type) where
  | goesOn (phase : Phase Content)
  | finished (success : Bool)

namespace Files

variable (files : Files Content)

variable (update : Content → Content)

def write (baseline : Content) :
    Files Content × Phase Content :=
  ({ files with candidate := some (update baseline) }, .applying baseline)

def start (waits : Bool) :
    Files Content × Phase Content :=
  if waits then (files, .preparing files.record) else files.write update files.record

def hand : Files Content :=
  { files with given := files.candidate.or files.given }

def move :
    Phase Content → Move → Option (Files Content × Status Content)
  | .preparing baseline, .prepared =>
    let written := files.write update baseline
    some (written.1, .goesOn written.2)
  | .preparing _, .refused => some (files, .finished false)
  | .applying baseline, .read =>
    files.candidate.map fun _ => (files.hand, .goesOn (.applied baseline))
  | .applied _, .succeeded =>
    match files.candidate with
    | some content => some ({ files with record := content, candidate := none }, .finished true)
    -- The candidate was promoted by another request.
    | none => some (files, .finished false)
  | .applying baseline, .failed =>
    some ({ files.hand with candidate := some files.record }, .goesOn (.restoring baseline))
  | .restoring _, .restored => files.candidate.map fun _ => (files.hand, .finished false)
  | .applying _, .gaveUp | .applied _, .gaveUp | .restoring _, .gaveUp =>
    some (files.hand, .finished false)
  | _, _ => none

end Files

structure Desk (Content Request : Type) where
  files : Files Content
  jobs : Pool (Request × Phase Content)
  done : List Request
  spoiled : Bool

namespace Desk

variable (update : Request → Content → Content) (desk : Desk Content Request)

def begin (request : Request) (waits : Bool) : Desk Content Request :=
  let started := desk.files.start (update request) waits
  { desk with files := started.1, jobs := desk.jobs.begin (request, started.2) }

def settle (id : Nat) (request : Request) (files : Files Content) :
    Status Content → Desk Content Request
  | .goesOn phase => { desk with files := files, jobs := desk.jobs.goOn id (request, phase) }
  | .finished true =>
    { desk with
      files := files
      jobs := desk.jobs.finish id
      done := desk.done ++ [request] }
  | .finished false =>
    { desk with files := files, jobs := desk.jobs.finish id, spoiled := true }

def drive (id : Nat) (move : Move) : Option (Desk Content Request) :=
  (desk.jobs.find id).bind fun job =>
    (desk.files.move (update job.1) job.2 move).map fun moved =>
      desk.settle id job.1 moved.1 moved.2

end Desk

def inOrder (update : Request → Content → Content) (start : Content) (order : List Request) :
    Content :=
  order.foldl (fun content request => update request content) start

/-- Once all have succeeded, the record and what was last handed over are what they leave in some
order. -/
def Serial (update : Request → Content → Content) (start : Content)
    (desk : Desk Content Request) : Prop :=
  desk.jobs.jobs = [] → desk.spoiled = false → desk.done ≠ [] →
    ∃ order, order.Perm desk.done ∧ desk.files.record = inOrder update start order ∧
      desk.files.given = some (inOrder update start order)

instance [DecidableEq Content] [DecidableEq Request] (update : Request → Content → Content)
    (start : Content) (desk : Desk Content Request) : Decidable (Serial update start desk) :=
  have : Decidable (∃ order, order.Perm desk.done ∧
      desk.files.record = inOrder update start order ∧
      desk.files.given = some (inOrder update start order)) :=
    decidable_of_iff (∃ order ∈ desk.done.permutations',
      desk.files.record = inOrder update start order ∧
      desk.files.given = some (inOrder update start order)) (by simp [List.mem_permutations'])
  inferInstanceAs (Decidable (_ → _ → _ → _))

section

variable (update : Request → Content → Content) (start : Content)

/-- The request goes on to write the candidate from what the record still is. -/
def Desk.current [DecidableEq Content] (desk : Desk Content Request) (id : Nat) : Move → Bool
  | .prepared =>
    match desk.jobs.find id with
    | some (_, .preparing baseline) => decide (baseline = desk.files.record)
    | _ => true
  | _ => true

def Phase.Waiting (phase : Phase Content) : Prop :=
  ∃ baseline, phase = .preparing baseline

def Phase.Holding (phase : Phase Content) : Prop :=
  ∃ baseline, phase = .applying baseline ∨ phase = .applied baseline

variable {phase : Phase Content}

theorem Phase.not_waiting_of_holding (holding : phase.Holding) :
    ¬phase.Waiting := by
  rintro ⟨_, rfl⟩
  obtain ⟨_, same | same⟩ := holding
  · cases same
  · cases same

inductive Moved (files : Files Content) (change : Content → Content) :
    Phase Content → Files Content → Status Content → Prop
  | wrote (baseline : Content) :
    Moved files change (.preparing baseline) (files.write change baseline).1
      (.goesOn (.applying baseline))
  | handed (baseline content : Content) (written : files.candidate = some content) :
    Moved files change (.applying baseline) { files with given := some content }
      (.goesOn (.applied baseline))
  | promoted (baseline content : Content) (written : files.candidate = some content) :
    Moved files change (.applied baseline) { files with record := content, candidate := none }
      (.finished true)
  | failed (baseline : Content) (after : Files Content) :
    Moved files change (.applying baseline) after (.goesOn (.restoring baseline))
  | gaveUp (phase : Phase Content) (after : Files Content) :
    Moved files change phase after (.finished false)

theorem moved_of_move {files after : Files Content} {change : Content → Content}
    {move : Move} {status : Status Content}
    (moved : files.move change phase move = some (after, status)) :
    Moved files change phase after status := by
  unfold Files.move at moved
  split at moved
  · cases moved
    exact .wrote _
  · cases moved
    exact .gaveUp _ _
  · obtain ⟨content, written, same⟩ := map_eq_some_iff.mp moved
    cases same
    have handed : files.hand = { files with given := some content } := by
      simp [Files.hand, written]
    rw [handed]
    exact .handed _ content written
  · split at moved
    · rename_i content written
      cases moved
      exact .promoted _ content written
    · cases moved
      exact .gaveUp _ _
  · cases moved
    exact .failed _ _
  · obtain ⟨content, written, same⟩ := map_eq_some_iff.mp moved
    cases same
    exact .gaveUp _ _
  · cases moved
    exact .gaveUp _ _
  · cases moved
    exact .gaveUp _ _
  · cases moved
    exact .gaveUp _ _
  · cases moved

namespace Desk

variable (desk : Desk Content Request) (id : Nat) (request : Request) (files : Files Content)

variable (status : Status Content)

def Holds : Prop :=
  ∃ request phase, (id, (request, phase)) ∈ desk.jobs.jobs ∧ phase.Holding

inductive Doomed : Prop
  | spoiled (ended : desk.spoiled = true)
  | restoring (id : Nat) (request : Request) (baseline : Content)
    (member : (id, (request, .restoring baseline)) ∈ desk.jobs.jobs)
  | missing (id : Nat) (holds : desk.Holds id) (none_ : desk.files.candidate = none)
  | contended (first second : Nat) (apart : first ≠ second) (one : desk.Holds first)
    (other : desk.Holds second)

structure Turn (phase : Phase Content) : Prop where
  member : (id, (request, phase)) ∈ desk.jobs.jobs
  holding : phase.Holding
  candidate : desk.files.candidate = some (update request desk.files.record)
  given : (∃ baseline, phase = .applied baseline) → desk.files.given = desk.files.candidate
  others : ∀ entry ∈ desk.jobs.jobs, entry.1 ≠ id → entry.2.2.Waiting

structure InTurn : Prop where
  record : desk.files.record = inOrder update start desk.done
  turn : ((∀ entry ∈ desk.jobs.jobs, entry.2.2.Waiting) ∧
      (desk.done ≠ [] → desk.files.given = some desk.files.record)) ∨
    ∃ id request phase, desk.Turn update id request phase

theorem settle_mem_other {entry : Nat × (Request × Phase Content)}
    (member : entry ∈ desk.jobs.jobs) (other : entry.1 ≠ id) :
    entry ∈ (desk.settle id request files status).jobs.jobs := by
  cases status with
  | goesOn phase => exact List.mem_map.mpr ⟨entry, member, if_neg (by simpa using other)⟩
  | finished success =>
    cases success with
    | true | false => exact (desk.jobs.mem_finish id entry).mpr ⟨member, other⟩

theorem holds_settle_other {other : Nat} (holds : desk.Holds other)
    (apart : other ≠ id) : (desk.settle id request files status).Holds other := by
  obtain ⟨its, phase, member, holding⟩ := holds
  exact ⟨its, phase, desk.settle_mem_other id request files status member apart, holding⟩

theorem holds_settle_self {before : Request × Phase Content}
    (member : (id, before) ∈ desk.jobs.jobs) (holding : phase.Holding) :
    (desk.settle id request files (.goesOn phase)).Holds id :=
  ⟨request, phase, desk.jobs.goOn_mem_self id member, holding⟩

theorem numbered_settle (numbered : desk.jobs.Numbered) :
    (desk.settle id request files status).jobs.Numbered := by
  cases status with
  | goesOn phase => exact desk.jobs.numbered_goOn numbered
  | finished success =>
    cases success with
    | true | false => exact desk.jobs.numbered_finish numbered

theorem own_phase (numbered : desk.jobs.Numbered)
    (found : desk.jobs.find id = some (request, phase)) {its : Request} {other : Phase Content}
    (member : (id, (its, other)) ∈ desk.jobs.jobs) : its = request ∧ other = phase := by
  have same := desk.jobs.find_of_mem numbered member
  rw [found] at same
  cases same
  exact ⟨rfl, rfl⟩

/-! ## A run that is doomed stays so -/

theorem doomed_begin (waits : Bool) (numbered : desk.jobs.Numbered) (doomed : desk.Doomed) :
    (desk.begin update request waits).Doomed := by
  have stays : ∀ other, desk.Holds other → (desk.begin update request waits).Holds other := by
    rintro other ⟨its, phase, member, holding⟩
    exact ⟨its, phase, (desk.jobs.mem_begin _ _).mpr (Or.inl member), holding⟩
  cases doomed with
  | spoiled ended => exact .spoiled ended
  | restoring own its baseline member =>
    exact .restoring own its baseline ((desk.jobs.mem_begin _ _).mpr (Or.inl member))
  | contended first second apart one other =>
    exact .contended first second apart (stays first one) (stays second other)
  | missing own holds none_ =>
    cases waits with
    | true => exact .missing own (stays own holds) none_
    | false =>
      -- The new request writes the candidate again, and two hold it.
      have fresh : own < desk.jobs.nextId := by
        obtain ⟨its, phase, member, _⟩ := holds
        exact numbered.fresh _ member
      refine .contended own desk.jobs.nextId (Nat.ne_of_lt fresh) (stays own holds) ?_
      exact ⟨request, .applying desk.files.record,
        (desk.jobs.mem_begin _ _).mpr (Or.inr rfl), desk.files.record, Or.inl rfl⟩

theorem doomed_settle (numbered : desk.jobs.Numbered)
    (found : desk.jobs.find id = some (request, phase)) {status : Status Content}
    (moved : Moved desk.files (update request) phase files status) (doomed : desk.Doomed) :
    (desk.settle id request files status).Doomed := by
  have own := desk.jobs.find_mem id _ found
  have stays : ∀ next : Phase Content, next.Holding → ∀ other, desk.Holds other →
      (desk.settle id request files (.goesOn next)).Holds other := by
    intro next holding other holds
    by_cases named : other = id
    · exact named ▸ desk.holds_settle_self id request _ own holding
    · exact desk.holds_settle_other id request _ _ holds named
  cases doomed with
  | spoiled ended =>
    cases moved with
    | gaveUp => exact .spoiled rfl
    | _ => exact .spoiled ended
  | restoring other its base member =>
    by_cases named : other = id
    · subst named
      obtain ⟨-, rfl⟩ := desk.own_phase other request numbered found member
      cases moved
      exact .spoiled rfl
    · exact .restoring other its base (desk.settle_mem_other id request _ _ member named)
  | missing other holds none_ =>
    cases moved with
    | gaveUp => exact .spoiled rfl
    | failed baseline =>
      exact .restoring id request baseline (desk.jobs.goOn_mem_self id own)
    | wrote baseline =>
      refine .contended other id ?_ (stays _ ⟨baseline, Or.inl rfl⟩ other holds)
        (desk.holds_settle_self id request _ own ⟨baseline, Or.inl rfl⟩)
      rintro rfl
      obtain ⟨its, its', member, holding⟩ := holds
      rw [(desk.own_phase other request numbered found member).2] at holding
      exact Phase.not_waiting_of_holding holding ⟨baseline, rfl⟩
    | handed _ _ written | promoted _ _ written => simp [written] at none_
  | contended first second differ one other =>
    cases moved with
    | gaveUp => exact .spoiled rfl
    | failed baseline =>
      exact .restoring id request baseline (desk.jobs.goOn_mem_self id own)
    | wrote baseline =>
      have held := stays (.applying baseline) ⟨baseline, Or.inl rfl⟩
      exact .contended first second differ (held first one) (held second other)
    | handed baseline =>
      have held := stays (.applied baseline) ⟨baseline, Or.inr rfl⟩
      exact .contended first second differ (held first one) (held second other)
    | promoted =>
      -- One of the two is left without a candidate.
      by_cases named : first = id
      · subst named
        exact .missing second (desk.holds_settle_other first request _ _ other differ.symm) rfl
      · exact .missing first (desk.holds_settle_other id request _ _ one named) rfl

/-! ## Requests that take turns -/

theorem turn_of_holding (numbered : desk.jobs.Numbered) (inTurn : desk.InTurn update start)
    (found : desk.jobs.find id = some (request, phase))
    (holding : phase.Holding) : desk.Turn update id request phase := by
  have own := desk.jobs.find_mem id _ found
  rcases inTurn.turn with ⟨calm, _⟩ | ⟨other, its, phase', turn⟩
  · exact absurd (calm _ own) (Phase.not_waiting_of_holding holding)
  by_cases named : other = id
  · subst named
    obtain ⟨rfl, rfl⟩ := desk.own_phase other request numbered found turn.member
    exact turn
  · exact absurd (turn.others _ own fun same => named same.symm)
      (Phase.not_waiting_of_holding holding)

theorem inTurn_settle (numbered : desk.jobs.Numbered)
    (found : desk.jobs.find id = some (request, phase)) {status : Status Content}
    (moved : Moved desk.files (update request) phase files status)
    (fresh : ∀ baseline, phase = .preparing baseline → status = .goesOn (.applying baseline) →
      baseline = desk.files.record) (inTurn : desk.InTurn update start) :
    (desk.settle id request files status).InTurn update start ∨
      (desk.settle id request files status).Doomed := by
  have own := desk.jobs.find_mem id _ found
  cases moved with
  | gaveUp => exact Or.inr (.spoiled rfl)
  | failed baseline =>
    exact Or.inr (.restoring id request baseline (desk.jobs.goOn_mem_self id own))
  | wrote baseline =>
    have unchanged := fresh baseline rfl rfl
    have self := desk.holds_settle_self id request (desk.files.write (update request) baseline).1
      own ⟨baseline, Or.inl rfl⟩
    rcases inTurn.turn with ⟨calm, _⟩ | ⟨other, its, phase', turn⟩
    · refine Or.inl ⟨inTurn.record, Or.inr ⟨id, request, .applying baseline, ?_⟩⟩
      refine ⟨desk.jobs.goOn_mem_self id own, ⟨baseline, Or.inl rfl⟩, ?_, ?_, ?_⟩
      · simp [settle, Files.write, unchanged]
      · rintro ⟨_, same⟩
        cases same
      intro entry member apart
      rcases desk.jobs.mem_goOn id _ entry member with ⟨old, _⟩ | new
      · exact calm entry old
      · subst new
        exact absurd rfl apart
    · have apart : other ≠ id := by
        rintro rfl
        have same := (desk.own_phase other request numbered found turn.member).2
        exact Phase.not_waiting_of_holding turn.holding ⟨baseline, same⟩
      have stays := desk.holds_settle_other id request
        (desk.files.write (update request) baseline).1 (.goesOn (.applying baseline))
        ⟨its, phase', turn.member, turn.holding⟩ apart
      exact Or.inr (.contended id other apart.symm self stays)
  | handed baseline content written =>
    have turn := turn_of_holding update start desk id request numbered inTurn found
      ⟨baseline, Or.inl rfl⟩
    refine Or.inl ⟨inTurn.record, Or.inr ⟨id, request, .applied baseline, ?_⟩⟩
    refine ⟨desk.jobs.goOn_mem_self id own, ⟨baseline, Or.inr rfl⟩, turn.candidate,
      fun _ => written.symm, ?_⟩
    intro entry member apart
    rcases desk.jobs.mem_goOn id _ entry member with ⟨old, _⟩ | new
    · exact turn.others entry old apart
    · subst new
      exact absurd rfl apart
  | promoted baseline content written =>
    have turn := turn_of_holding update start desk id request numbered inTurn found
      ⟨baseline, Or.inr rfl⟩
    have content_eq : content = update request desk.files.record :=
      some.inj (written.symm.trans turn.candidate)
    refine Or.inl ⟨?_, Or.inl ⟨?_, fun _ => ?_⟩⟩
    · simp [settle, content_eq, inTurn.record, inOrder]
    · intro entry member
      obtain ⟨old, apart⟩ := (desk.jobs.mem_finish id entry).mp member
      exact turn.others entry old apart
    · exact (turn.given ⟨baseline, rfl⟩).trans written

structure Sound : Prop where
  numbered : desk.jobs.Numbered
  fate : desk.InTurn update start ∨ desk.Doomed

theorem sound_start (idle : desk.jobs = Pool.empty) (none_ : desk.done = [])
    (first : desk.files.record = start) : desk.Sound update start := by
  refine ⟨by rw [idle]; exact Pool.numbered_empty, Or.inl ⟨?_, Or.inl ⟨?_, ?_⟩⟩⟩
  · simp [none_, first, inOrder]
  · simp [idle, Pool.empty]
  · exact fun some_ => absurd none_ some_

theorem sound_begin (waits : Bool) (sound : desk.Sound update start) :
    (desk.begin update request waits).Sound update start := by
  refine ⟨desk.jobs.numbered_begin sound.numbered, ?_⟩
  rcases sound.fate with inTurn | doomed
  swap
  · exact Or.inr (doomed_begin update desk request waits sound.numbered doomed)
  cases waits with
  | true =>
    refine Or.inl ⟨inTurn.record, ?_⟩
    rcases inTurn.turn with ⟨calm, given⟩ | ⟨own, its, phase, turn⟩
    · refine Or.inl ⟨?_, given⟩
      intro entry member
      rcases (desk.jobs.mem_begin _ entry).mp member with old | new
      · exact calm entry old
      · subst new
        exact ⟨desk.files.record, rfl⟩
    · refine Or.inr ⟨own, its, phase, ⟨?_, turn.holding, turn.candidate, turn.given, ?_⟩⟩
      · exact (desk.jobs.mem_begin _ _).mpr (Or.inl turn.member)
      intro entry member apart
      rcases (desk.jobs.mem_begin _ entry).mp member with old | new
      · exact turn.others entry old apart
      · subst new
        exact ⟨desk.files.record, rfl⟩
  | false =>
    have self : (desk.begin update request false).Holds desk.jobs.nextId :=
      ⟨request, .applying desk.files.record, (desk.jobs.mem_begin _ _).mpr (Or.inr rfl),
        desk.files.record, Or.inl rfl⟩
    rcases inTurn.turn with ⟨calm, _⟩ | ⟨own, its, phase, turn⟩
    · refine Or.inl ⟨inTurn.record, Or.inr
        ⟨desk.jobs.nextId, request, .applying desk.files.record, ?_⟩⟩
      refine ⟨(desk.jobs.mem_begin _ _).mpr (Or.inr rfl), ⟨desk.files.record, Or.inl rfl⟩, rfl,
        ?_, ?_⟩
      · rintro ⟨_, same⟩
        cases same
      intro entry member apart
      rcases (desk.jobs.mem_begin _ entry).mp member with old | new
      · exact calm entry old
      · subst new
        exact absurd rfl apart
    · refine Or.inr (.contended own desk.jobs.nextId ?_ ?_ self)
      · exact Nat.ne_of_lt (sound.numbered.fresh _ turn.member)
      · exact ⟨its, phase, (desk.jobs.mem_begin _ _).mpr (Or.inl turn.member), turn.holding⟩

theorem sound_drive [DecidableEq Content] {after : Desk Content Request} {move : Move}
    (current : desk.current id move = true) (driven : desk.drive update id move = some after)
    (sound : desk.Sound update start) : after.Sound update start := by
  obtain ⟨⟨request, phase⟩, found, rest⟩ := bind_eq_some_iff.mp driven
  obtain ⟨⟨files, status⟩, went, same⟩ := map_eq_some_iff.mp rest
  subst same
  have moved := moved_of_move went
  refine ⟨desk.numbered_settle id request files status sound.numbered, ?_⟩
  rcases sound.fate with inTurn | doomed
  · refine inTurn_settle update start desk id request files sound.numbered found moved ?_ inTurn
    rintro baseline rfl rfl
    have prepared : move = .prepared := by
      cases move <;> simp_all [Files.move]
    simpa [Desk.current, prepared, found] using current
  · exact Or.inr (doomed_settle update desk id request files sound.numbered found moved doomed)

theorem serial_of_sound (sound : desk.Sound update start) : Serial update start desk := by
  intro idle clean some_
  rcases sound.fate with inTurn | doomed
  · rcases inTurn.turn with ⟨_, given⟩ | ⟨id, request, phase, turn⟩
    · refine ⟨desk.done, List.Perm.refl _, inTurn.record, ?_⟩
      rw [given some_, inTurn.record]
    · have member := turn.member
      rw [idle] at member
      cases member
  · cases doomed with
    | spoiled ended =>
      rw [clean] at ended
      cases ended
    | restoring id request baseline member =>
      rw [idle] at member
      cases member
    | missing id holds _ =>
      obtain ⟨_, _, member, _⟩ := holds
      rw [idle] at member
      cases member
    | contended first second _ one _ =>
      obtain ⟨_, _, member, _⟩ := one
      rw [idle] at member
      cases member

end Desk

end

end Nebula.Candidate
