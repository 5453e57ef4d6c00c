import Nebula.Agent.XrayCall

/-!
# Clients removed through Xray's API

`_apply_clients_live` changes the clients of the running Xray with `rmu` and `adu`. Removing a
client leaves its open connections running, so `_cut_off_lingering` watches the counters of removed
clients and restarts Xray when one still moves. The watch is a task of its own: it shares a map
with the applies, and takes `_apply_lock` only for its restart.

Emails stand for the client UUIDs they are digests of. An apply is followed from when its config is
written. `owed` and `held` are no data of the driver: the removals still to be answered for, and
those the apply under way made.
-/

namespace Nebula.Agent.LiveClients

open Schema Store
open Agent.XrayCall (Inbounds RunEnd)

abbrev Email := Uuid

/-- `_Lingering`, under its email. -/
structure Watched where
  email : Email
  removedAt : Nat
  baseline : Option Nat

def lingerWatchSeconds : Nat :=
  330

/-- Where `_cut_off_lingering` waits; `ended` also stands for no task. -/
inductive WatchPhase where
  | ended
  | sleeping
  | querying
  | read (totals : List (Email × Nat))
  | locking
  | restarting
  deriving DecidableEq

inductive ApplyPhase where
  | querying (tag : ProfileCode) (clients : List Email) (rest : Inbounds) (removed : List Email)
    (additions : List (ProfileCode × Email))
  | removing (tag : ProfileCode) (gone : List Email) (rest : Inbounds) (removed : List Email)
    (additions : List (ProfileCode × Email))
  | adding (removed : List Email) (additions : List (ProfileCode × Email))
  | checking (tag : ProfileCode) (clients : List Email) (rest : Inbounds) (removed : List Email)
  | reloading
  | applyingHysteria (removed : List Email)
  | rollingBack
  | rollingBackHysteria

structure Host where
  users : List (ProfileCode × Email)
  counters : List (Email × Nat)
  file : Inbounds
  recorded : Inbounds
  apply : Option ApplyPhase
  lingering : List Watched
  watch : WatchPhase
  now : Nat
  owed : List Watched
  held : List Email

namespace Host

variable (host : Host) (tag : ProfileCode)

def usersOf : List Email :=
  (host.users.filter fun user => user.1 == tag).map Prod.snd

def serves (email : Email) : Bool :=
  host.users.any fun user => user.2 == email

def restarted : Host :=
  { host with
    users := host.file.flatMap fun inbound => inbound.2.map (Prod.mk inbound.1)
    counters := []
    owed := []
    held := [] }

def withoutUsers (emails : List Email) :
    List (ProfileCode × Email) :=
  host.users.filter fun user => !(user.1 == tag && emails.contains user.2)

def lost (emails : List Email) : List Email :=
  emails.filter fun email =>
    host.serves email && !(host.withoutUsers tag emails).any fun user => user.2 == email

/-- Xray drops users of an inbound; the lost ones are answered for from now on. -/
def removeUsers (emails : List Email) : Host :=
  { host with
    users := host.withoutUsers tag emails
    owed := (host.owed.filter fun one => !(host.lost tag emails).contains one.email) ++
      (host.lost tag emails).map fun email => ⟨email, host.now, none⟩
    held := host.held ++ host.lost tag emails }

/-- Xray takes users on; one that is served again is no longer answered for. -/
def addUsers (added : List (ProfileCode × Email)) : Host :=
  { host with
    users := host.users ++ added
    owed := host.owed.filter fun one => !added.any fun user => user.2 == one.email }

def register (removed : List Email) : Host :=
  if removed = [] then host
  else
    { host with
      lingering := (host.lingering.filter fun one => !removed.contains one.email) ++
        removed.map fun email => ⟨email, host.now, none⟩
      watch := if host.watch = .ended then .sleeping else host.watch }

def endApply : Host :=
  { host with apply := none, held := [] }

def rollback : Host :=
  { host with file := host.recorded, apply := some .rollingBack }

def promote (removed : List Email) : Host :=
  ({ host with recorded := host.file }.endApply).register removed

def nextCheck (todo : Inbounds) (removed : List Email) : Host :=
  { host with
    apply := some (match todo with
      | [] => .applyingHysteria removed
      | (tag, clients) :: rest => .checking tag clients rest removed) }

def nextQuery (todo : Inbounds) (removed : List Email)
    (additions : List (ProfileCode × Email)) : Host :=
  match todo with
  | (tag, clients) :: rest =>
    { host with apply := some (.querying tag clients rest removed additions) }
  | [] =>
    if additions = [] then host.nextCheck host.file removed
    else { host with apply := some (.adding removed additions) }

/-- `_apply_clients_live` failed: Xray is restarted instead. -/
def fallBack : Host :=
  { host with apply := some .reloading }

def begin (wanted : Inbounds) (live : Bool) : Option Host :=
  if host.apply = none ∧ host.watch ≠ .restarting then
    let written := { host with file := wanted }
    some (if live then written.nextQuery wanted [] [] else written.fallBack)
  else none

/-- What an answer leads to: a timeout is not an apply error and ends the apply. -/
def onFailure (outcome : RunEnd) (succeeded failed : Host) : Host :=
  match outcome with
  | .succeeded => succeeded
  | .failed => failed
  | .timedOut => host.endApply

variable (clients : List Email)

def compare (rest : Inbounds)
    (removed : List Email) (additions : List (ProfileCode × Email)) : Host :=
  let live := host.usersOf tag
  let gone := live.filter fun email => !clients.contains email
  let new := clients.filter fun email => !live.contains email
  let additions := additions ++ new.map (Prod.mk tag)
  if gone = [] then host.nextQuery rest removed additions
  else { host with apply := some (.removing tag gone rest removed additions) }

def pop : Host :=
  { host with lingering := host.lingering.filter fun one => !clients.contains one.email }

def check (rest : Inbounds)
    (removed : List Email) : Host :=
  let live := host.usersOf tag
  if live.all clients.contains && clients.all live.contains then
    (host.pop clients).nextCheck rest removed
  else host.fallBack

/-- The command the apply waits for ends; `done` is what `rmu` and `adu` really did. -/
def applyStep (outcome : RunEnd) (done : List Email) : Option Host :=
  match host.apply with
  | none => none
  | some (.querying tag clients rest removed additions) =>
    some (host.onFailure outcome (host.compare tag clients rest removed additions) host.fallBack)
  | some (.removing tag gone rest removed additions) =>
    let after := host.removeUsers tag (gone.filter done.contains)
    some (after.onFailure outcome (after.nextQuery rest (removed ∪ gone) additions)
      after.fallBack)
  | some (.adding removed additions) =>
    let after := host.addUsers (additions.filter fun user => done.contains user.2)
    some (after.onFailure outcome (after.nextCheck host.file removed) after.fallBack)
  | some (.checking tag clients rest removed) =>
    some (host.onFailure outcome (host.check tag clients rest removed) host.fallBack)
  | some .reloading =>
    some (host.onFailure outcome
      { host.restarted with apply := some (.applyingHysteria []) } host.rollback)
  | some (.applyingHysteria removed) =>
    some (host.onFailure outcome (host.promote removed) host.rollback)
  | some .rollingBack =>
    some (host.onFailure outcome
      { host.restarted with apply := some .rollingBackHysteria } host.endApply)
  | some .rollingBackHysteria => some host.endApply

def watchAgain : Host :=
  { host with watch := if host.lingering = [] then .ended else .sleeping }

end Host

def totalOf (totals : List (Email × Nat)) (email : Email) : Nat :=
  ((lookup Prod.fst email totals).map Prod.snd).getD 0

/-- The first reading is the baseline; one not past it when the window is over ends the watch. -/
def Watched.observe (now : Nat) (totals : List (Email × Nat)) (one : Watched) : Option Watched :=
  match one.baseline with
  | none => some { one with baseline := some (totalOf totals one.email) }
  | some first =>
    if first < totalOf totals one.email then some one
    else if one.removedAt + lingerWatchSeconds ≤ now then none
    else some one

theorem observe_spec {now : Nat} {totals : List (Email × Nat)} {one seen : Watched}
    (observed : one.observe now totals = some seen) :
    seen.email = one.email ∧ seen.removedAt = one.removedAt ∧
      seen.baseline = one.baseline.or (some (totalOf totals one.email)) := by
  unfold Watched.observe at observed
  repeat' split at observed
  all_goals cases observed
  all_goals simp [*]

def Watched.moved (totals : List (Email × Nat)) (one : Watched) : Bool :=
  one.baseline.any fun first => decide (first < totalOf totals one.email)

inductive WatchEvent where
  | wake
  | measured
  | failed
  | timedOut
  | processed
  | locked
  | restarted
  deriving DecidableEq

namespace Host

def observed (host : Host) (totals : List (Email × Nat)) : Host :=
  { host with
    lingering := host.lingering.filterMap (Watched.observe host.now totals)
    owed := host.owed.filterMap fun (one : Watched) =>
      if one.email ∈ host.held then some one else one.observe host.now totals }

def process (host : Host) (totals : List (Email × Nat)) : Host :=
  if host.lingering.any (Watched.moved totals) then
    { host.observed totals with watch := .locking }
  else (host.observed totals).watchAgain

/-- `_cut_off_lingering` and `_restart_for_lingering`, step by step. -/
def watchStep (host : Host) : WatchEvent → Option Host
  | .wake => if host.watch = .sleeping then some { host with watch := .querying } else none
  | .measured =>
    if host.watch = .querying then some { host with watch := .read host.counters } else none
  | .failed =>
    match host.watch with
    | .querying => some host.watchAgain
    | .restarting => some { host with watch := .ended }
    | _ => none
  -- A timeout is not an apply error: it ends the task.
  | .timedOut =>
    match host.watch with
    | .querying | .restarting => some { host with watch := .ended }
    | _ => none
  | .processed =>
    match host.watch with
    | .read totals => some (host.process totals)
    | _ => none
  | .locked =>
    if host.watch = .locking ∧ host.apply = none then
      some (if host.lingering = [] then { host with watch := .ended }
        else { host with lingering := [], watch := .restarting })
    else none
  | .restarted =>
    if host.watch = .restarting then some { host.restarted with watch := .ended } else none

end Host

inductive HostEvent where
  | begin (wanted : Inbounds) (live : Bool)
  | apply (outcome : RunEnd) (done : List Email)
  | watch (event : WatchEvent)
  | traffic (email : Email) (bytes : Nat)
  | tick (seconds : Nat)
  /-- By a resync, the init system or an operator. -/
  | restartedElsewhere
  deriving DecidableEq

def Host.step (host : Host) : HostEvent → Option Host
  | .begin wanted live => host.begin wanted live
  | .apply outcome done => host.applyStep outcome done
  | .watch event => host.watchStep event
  | .traffic email bytes =>
    some { host with
      counters := put Prod.fst (email, totalOf host.counters email + bytes) host.counters }
  | .tick seconds => some { host with now := host.now + seconds }
  | .restartedElsewhere => some host.restarted

end Nebula.Agent.LiveClients
