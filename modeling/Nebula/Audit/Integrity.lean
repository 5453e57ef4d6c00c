import Nebula.Audit.Chain

/-!
# What a verified export says

An export is intact when each of its lines but the last follows from the hash before it and the last
names the head and the count. `verify` accepts exactly the intact exports, and `verify_extends` two
intact exports exactly when the events of the older begin those of the newer.
-/

namespace Nebula.Audit

open Schema Json HashChain Option
open List hiding getElem?_eq_some_iff

section

variable (library : Library)

def readObject (line : Text) : Option Members :=
  match loads library.decoder line with
  | some (.object members) => some members
  | _ => none

def records (lines : List Text) : Option (List Members) :=
  (lines.filter notBlank).mapM (readObject library)

structure Follows (prev : Text) (record : Members) : Prop where
  event : get (key "format") record = none
  before : get (key "prev") record = some (text prev)
  hash : get (key "hash") record = some (text (link library prev (eventOf record)))

def Linked : Text → List Members → Prop
  | _, [] => True
  | prev, record :: rest =>
    Follows library prev record ∧ Linked (link library prev (eventOf record)) rest

structure Closes (events : List Members) (closing : Members) : Prop where
  format : get (key "format") closing = some (text format)
  count : equalsCount library events.length (get (key "count") closing) = true
  head : get (key "head") closing = some (text (head (link library) genesis (events.map eventOf)))

def Intact (lines : List Text) : Prop :=
  ∃ events closing, records library lines = some (events ++ [closing]) ∧
    Linked library genesis events ∧ Closes library events closing

def eventsOf (lines : List Text) : List Members :=
  (((records library lines).getD []).dropLast).map eventOf

end

section

variable {library : Library}

theorem isText_iff {expected : Text} {value : Option Value} :
    isText expected value = true ↔ value = some (text expected) := by
  unfold isText
  split
  · simp [text]
  rename_i other
  constructor
  · intro impossible
    cases impossible
  · intro same
    exact absurd same (other (asUnits expected))

variable {record : Members} {line : Text} {progress : Progress}

theorem loads_of_readObject (read : readObject library line = some record) :
    loads library.decoder line = some (.object record) := by
  unfold readObject at read
  split at read
  · cases read
    assumption
  · cases read

theorem line_ok {next : Progress} {number : Nat}
    (taken : progress.line library number line = .ok next) :
    progress.trailer = none ∧ ∃ record, readObject library line = some record ∧
      ((get (key "format") record).isSome = true ∧
          next = { progress with trailer := some record } ∨
        Follows library progress.prev record ∧
          next = { progress with
            prev := link library progress.prev (eventOf record),
            hashes := progress.hashes ++ [link library progress.prev (eventOf record)] }) := by
  unfold Progress.line at taken
  split at taken
  · cases taken
  rename_i unclosed
  refine ⟨by simpa using unclosed, ?_⟩
  split at taken
  · cases taken
  · rename_i record loaded
    refine ⟨record, by simp [readObject, loaded], ?_⟩
    split at taken
    · rename_i closing
      cases taken
      exact Or.inl ⟨closing, rfl⟩
    rename_i event
    dsimp only at taken
    split at taken
    · rename_i fits
      rw [Bool.and_eq_true, isText_iff, isText_iff] at fits
      cases taken
      exact Or.inr ⟨⟨by simpa using event, fits.1, fits.2⟩, rfl⟩
    · cases taken
  · cases taken

theorem line_of_follows (number : Nat) (unclosed : progress.trailer = none)
    (read : readObject library line = some record)
    (follows : Follows library progress.prev record) :
    progress.line library number line = .ok { progress with
      prev := link library progress.prev (eventOf record),
      hashes := progress.hashes ++ [link library progress.prev (eventOf record)] } := by
  have loaded := loads_of_readObject read
  have fits : (isText progress.prev (get (key "prev") record) &&
      isText (link library progress.prev (eventOf record)) (get (key "hash") record)) = true := by
    rw [Bool.and_eq_true, isText_iff, isText_iff]
    exact ⟨follows.before, follows.hash⟩
  simp only [Progress.line, unclosed, loaded, follows.event, isSome_none, fits]
  simp

variable {lines : List Text}

theorem verifyLines_closed {number : Nat} {final : Progress}
    (closed : progress.trailer ≠ none)
    (taken : verifyLines library number progress lines = .ok final) :
    lines = [] ∧ final = progress := by
  cases lines with
  | nil =>
    cases taken
    exact ⟨rfl, rfl⟩
  | cons line rest =>
    rw [verifyLines] at taken
    cases first : progress.line library number line with
    | error _ =>
      rw [first] at taken
      cases taken
    | ok next => exact absurd (line_ok first).1 closed

theorem mapM_eq_cons {α β : Type} (read : α → Option β) (lines : List α) {first : β}
    {others : List β} (whole : lines.mapM read = some (first :: others)) :
    ∃ line rest, lines = line :: rest ∧ read line = some first ∧ rest.mapM read = some others := by
  cases lines with
  | nil => simp at whole
  | cons line rest =>
    simpa [bind_eq_some_iff] using whole

theorem verifyLines_ok (number : Nat) (progress final : Progress)
    (unclosed : progress.trailer = none)
    (taken : verifyLines library number progress lines = .ok final) :
    ∃ events, lines.mapM (readObject library) = some (events ++ final.trailer.toList) ∧
      Linked library progress.prev events ∧
      final.prev = head (link library) progress.prev (events.map eventOf) ∧
      final.hashes =
        progress.hashes ++ digests (link library) progress.prev (events.map eventOf) := by
  induction lines generalizing number progress with
  | nil =>
    cases taken
    exact ⟨[], by simp [unclosed], trivial, rfl, by simp [digests, linked]⟩
  | cons line rest ih =>
    rw [verifyLines] at taken
    cases first : progress.line library number line with
    | error _ =>
      rw [first] at taken
      cases taken
    | ok next =>
      rw [first] at taken
      obtain ⟨_, record, read, ⟨_, rfl⟩ | ⟨follows, rfl⟩⟩ := line_ok first
      · obtain ⟨rfl, rfl⟩ := verifyLines_closed (by simp) taken
        exact ⟨[], by simp [read], trivial, rfl, by simp [digests, linked]⟩
      obtain ⟨events, later, chained, headed, hashed⟩ := ih (number + 1)
        ⟨link library progress.prev (eventOf record),
          progress.hashes ++ [link library progress.prev (eventOf record)],
          progress.trailer⟩ unclosed taken
      refine ⟨record :: events, by simp [read, later], ⟨follows, chained⟩, headed, ?_⟩
      rw [hashed, map_cons, digests_cons]
      simp

theorem verifyLines_linked {events : List Members} {closing : Members} (lines : List Text)
    (number : Nat) (progress : Progress) (unclosed : progress.trailer = none)
    (read : lines.mapM (readObject library) = some (events ++ [closing]))
    (chained : Linked library progress.prev events)
    (closes : (get (key "format") closing).isSome = true) :
    verifyLines library number progress lines = .ok
      ⟨head (link library) progress.prev (events.map eventOf),
        progress.hashes ++ digests (link library) progress.prev (events.map eventOf),
        some closing⟩ := by
  induction events generalizing lines number progress with
  | nil =>
    obtain ⟨line, rest, rfl, own, later⟩ := mapM_eq_cons (readObject library) lines read
    obtain rfl : rest = [] := by
      cases rest with
      | nil => rfl
      | cons line others => simp [bind_eq_some_iff] at later
    simp [verifyLines, Progress.line, unclosed, loads_of_readObject own, closes, Except.bind,
      digests, linked]
  | cons record events ih =>
    obtain ⟨line, rest, rfl, own, later⟩ := mapM_eq_cons (readObject library) lines read
    rw [verifyLines, line_of_follows number unclosed own chained.1]
    have final := ih rest (number + 1)
      ⟨link library progress.prev (eventOf record),
        progress.hashes ++ [link library progress.prev (eventOf record)], progress.trailer⟩
      unclosed later chained.2
    rw [Except.bind, final, map_cons, digests_cons]
    simp

theorem close_ok {summary : ChainSummary}
    (closed : progress.close library = .ok summary) :
    ∃ closing, progress.trailer = some closing ∧
      get (key "format") closing = some (text format) ∧
      equalsCount library progress.hashes.length (get (key "count") closing) = true ∧
      get (key "head") closing = some (text progress.prev) ∧
      summary = ⟨progress.hashes.length, progress.prev, get (key "until") closing,
        progress.hashes⟩ := by
  unfold Progress.close at closed
  split at closed
  · cases closed
  rename_i closing kept
  split at closed
  · rename_i formatted
    split at closed
    · rename_i fits
      rw [Bool.and_eq_true, isText_iff] at fits
      cases closed
      exact ⟨closing, kept, isText_iff.mp formatted, fits.1, fits.2, rfl⟩
    · cases closed
  · cases closed

theorem verify_ok_iff {library : Library} {summary : ChainSummary} :
    verify library lines = .ok summary ↔
      ∃ events closing, records library lines = some (events ++ [closing]) ∧
        Linked library genesis events ∧ Closes library events closing ∧
        summary = ⟨events.length, head (link library) genesis (events.map eventOf),
          get (key "until") closing, digests (link library) genesis (events.map eventOf)⟩ := by
  constructor
  · intro accepted
    cases gone : verifyLines library 1 ⟨genesis, [], none⟩ (lines.filter notBlank) with
    | error _ =>
      rw [verify, gone] at accepted
      cases accepted
    | ok progress =>
      rw [verify, gone] at accepted
      obtain ⟨events, read, chained, headed, hashed⟩ := verifyLines_ok 1 _ progress rfl gone
      obtain ⟨closing, kept, formatted, counted, named, rfl⟩ := close_ok accepted
      rw [nil_append] at hashed
      rw [headed] at named
      rw [hashed, digests_length, length_map] at counted
      refine ⟨events, closing, ?_, chained, ⟨formatted, counted, named⟩, ?_⟩
      · rw [records, read, kept]
        rfl
      · rw [headed, hashed, digests_length, length_map]
  · rintro ⟨events, closing, read, chained, closes, rfl⟩
    have gone := verifyLines_linked _ 1 ⟨genesis, [], none⟩ rfl read
      chained (by rw [closes.format]; rfl)
    have counted :
        (digests (link library) genesis (events.map eventOf)).length = events.length := by
      simp
    have format := isText_iff.mpr closes.format
    have fits := isText_iff.mpr closes.head
    rw [verify, gone]
    simp [Except.bind, Progress.close, counted, format, fits, closes.count]

theorem verify_accepts_iff (library : Library) (lines : List Text) :
    (∃ summary, verify library lines = .ok summary) ↔ Intact library lines := by
  constructor
  · rintro ⟨summary, accepted⟩
    obtain ⟨events, closing, read, chained, closes, _⟩ := verify_ok_iff.mp accepted
    exact ⟨events, closing, read, chained, closes⟩
  · rintro ⟨events, closing, read, chained, closes⟩
    exact ⟨_, verify_ok_iff.mpr ⟨events, closing, read, chained, closes, rfl⟩⟩

theorem eventsOf_eq {events : List Members} {closing : Members}
    (read : records library lines = some (events ++ [closing])) :
    eventsOf library lines = events.map eventOf := by
  simp [eventsOf, read]

end

/-! ## What the exporter writes -/

section

variable (library : Library)

/-- Well formed, with no value inside another. -/
structure Flat (members : Members) : Prop where
  formed : (Value.object members).WellFormed library.decoder
  flat : ∀ member ∈ members, member.2.flat = true

theorem flat_dict {pairs : Members}
    (formed : ∀ pair ∈ pairs, pair.2.WellFormed library.decoder)
    (flat : ∀ pair ∈ pairs, pair.2.flat = true) : Flat library (dict pairs) :=
  ⟨dict_wellFormed _ ((membersWellFormed_iff _ _).mpr formed),
    dict_values (Value.flat · = true) flat⟩

@[simp] theorem text_wellFormed {content : Text} : (text content).WellFormed library.decoder :=
  trivial

@[simp] theorem text_flat {content : Text} : (text content).flat = true :=
  rfl

@[simp] theorem optional_wellFormed (content : Option Text) :
    (optional content).WellFormed library.decoder := by
  cases content <;> trivial

@[simp] theorem optional_flat (content : Option Text) : (optional content).flat = true := by
  cases content <;> rfl

theorem canonical_flat (entry : AuditLogEntry) : Flat library (canonical library entry) :=
  flat_dict library (by simp) (by simp)

theorem record_flat (prev digest : Text) {event : Members} (flat : Flat library event) :
    Flat library (record prev digest event) :=
  ⟨insertMember_wellFormed _ trivial (insertMember_wellFormed _ trivial flat.formed),
    insertMember_values (Value.flat · = true) rfl
      (insertMember_values (Value.flat · = true) rfl flat.flat)⟩

theorem trailer_flat (count : Nat) (head : Text) (moment : Instant)
    (countable : count < 10 ^ maxDigits) : Flat library (trailer library count head moment) :=
  flat_dict library (by simpa [Value.WellFormed] using countable)
    (by simp [show (Value.int count).flat = true from rfl])

theorem canonical_absent (entry : AuditLogEntry) {name : String}
    (used : name ∈ ["format", "prev", "hash"]) :
    get (key name) (canonical library entry) = none := by
  apply get_foldl_insertMember
  simp only [mem_cons, not_mem_nil, or_false] at used
  rcases used with rfl | rfl | rfl <;>
  · simp only [forall_mem_cons, not_mem_nil, false_imp_iff, implies_true, and_true]
    decide

theorem eventOf_record (prev digest : Text) {event : Members}
    (noPrev : get (key "prev") event = none) (noHash : get (key "hash") event = none) :
    eventOf (record prev digest event) = event := by
  have still : get (key "hash") (insertMember (key "prev", text prev) event) = none := by
    rw [get_insertMember_other _ _ _ _ (by decide), noHash]
  rw [eventOf, without_comm, record, without_insertMember _ _ still,
    without_insertMember _ _ noPrev]

theorem record_follows {prev : Text} {entry : AuditLogEntry} :
    Follows library prev (record prev (link library prev (canonical library entry))
      (canonical library entry)) := by
  have event := eventOf_record prev (link library prev (canonical library entry))
      (canonical_absent library entry (by simp))
    (canonical_absent library entry (by simp))
  refine ⟨?_, ?_, ?_⟩
  · rw [record, get_insertMember_other _ _ _ _ (by decide),
      get_insertMember_other _ _ _ _ (by decide), canonical_absent library entry (by simp)]
  · rw [record, get_insertMember_other _ _ _ _ (by decide), get_insertMember_self]
  · rw [event, record, get_insertMember_self]

theorem readObject_dumps {members : Members} (flat : Flat library members) :
    readObject library (Value.object members).dumps = some members := by
  simp [readObject, loads_dumps library.decoder flat.formed (library.decoder.flat _ flat.flat)]

theorem trailer_closes (events : List Members) (moment : Instant) :
    Closes library events (trailer library events.length
      (head (link library) genesis (events.map eventOf)) moment) := by
  refine ⟨?_, ?_, ?_⟩
  · exact get_dict (text format) [] _ (by
      simp only [forall_mem_cons, not_mem_nil, false_imp_iff, implies_true, and_true]
      decide)
  · have counted : get (key "count") (trailer library events.length
        (head (link library) genesis (events.map eventOf)) moment) = some (.int events.length) :=
      get_dict _ [(key "format", text format)] _ (by
        simp only [forall_mem_cons, not_mem_nil, false_imp_iff, implies_true, and_true]
        decide)
    simp [counted, equalsCount]
  · exact get_dict _ [(key "format", text format), (key "count", .int events.length)] _
      (by
        simp only [forall_mem_cons, not_mem_nil, false_imp_iff, implies_true, and_true]
        decide)

theorem chainLines_linked (moment : Instant) (entries : List AuditLogEntry) (prev : Text)
    (count : Nat) (countable : count + entries.length < 10 ^ maxDigits) :
    ∃ events, (chainLines library moment prev count entries).mapM (readObject library) =
        some (events ++ [trailer library (count + entries.length)
          (head (link library) prev (entries.map (canonical library))) moment]) ∧
      Linked library prev events ∧ events.map eventOf = entries.map (canonical library) := by
  induction entries generalizing prev count with
  | nil =>
    refine ⟨[], ?_, trivial, rfl⟩
    simp [chainLines, readObject_dumps library (trailer_flat library count prev moment countable)]
  | cons entry rest ih =>
    obtain ⟨events, read, chained, same⟩ :=
      ih (link library prev (canonical library entry)) (count + 1)
        (by rwa [length_cons, Nat.add_comm rest.length, ← Nat.add_assoc] at countable)
    have own := readObject_dumps library (record_flat library prev
      (link library prev (canonical library entry)) (canonical_flat library entry))
    have event := eventOf_record prev (link library prev (canonical library entry))
      (canonical_absent library entry (by simp))
      (canonical_absent library entry (by simp))
    refine ⟨record prev (link library prev (canonical library entry)) (canonical library entry) ::
      events, ?_, ⟨record_follows library, by rw [event]; exact chained⟩, ?_⟩
    · rw [chainLines, mapM_cons, own, read]
      simp [Nat.add_comm, Nat.add_left_comm]
    · rw [map_cons, event, same, map_cons]

theorem chainLines_object {moment : Instant} {entries : List AuditLogEntry} (prev : Text)
    (count : Nat) (countable : count + entries.length < 10 ^ maxDigits) :
    ∀ line ∈ chainLines library moment prev count entries, ∃ members,
      line = (Value.object members).dumps ∧ Flat library members := by
  induction entries generalizing prev count with
  | nil =>
    intro line member
    exact ⟨_, mem_singleton.mp member, trailer_flat library count prev moment countable⟩
  | cons entry rest ih =>
    intro line member
    rcases mem_cons.mp member with first | later
    · exact ⟨_, first, record_flat library _ _ (canonical_flat library entry)⟩
    · refine ih _ _ ?_ line later
      rwa [length_cons, Nat.add_comm rest.length, ← Nat.add_assoc] at countable

theorem isBoundary_of_printable {char : Char} (shown : printable char = true) :
    isBoundary char = false := by
  simp only [printable, decide_eq_true_eq] at shown
  simp only [isBoundary, decide_eq_false_iff_not, mem_cons, not_mem_nil, or_false]
  omega

theorem splitLines_line (line rest : Text) (plain : ∀ char ∈ line, isBoundary char = false) :
    splitLines (line ++ '\x0a' :: rest) = line :: splitLines rest := by
  induction line with
  | nil => simp [splitLines, isBoundary]
  | cons char more ih =>
    have own := plain char mem_cons_self
    have later := ih fun other member => plain other (mem_cons_of_mem _ member)
    rw [cons_append, splitLines]
    · simp [own, later]
    rintro after rfl
    have boundary : isBoundary '\x0d' = true := by decide
    rw [own] at boundary
    cases boundary

theorem splitLines_flatMap (lines : List Text)
    (plain : ∀ line ∈ lines, ∀ char ∈ line, isBoundary char = false) :
    splitLines (lines.flatMap fun line => line ++ ['\x0a']) = lines := by
  induction lines with
  | nil => rfl
  | cons line rest ih =>
    rw [flatMap_cons, append_assoc, singleton_append,
      splitLines_line line _ (plain line mem_cons_self),
      ih fun other member => plain other (mem_cons_of_mem _ member)]

variable {entries : List AuditLogEntry} (countable : entries.length < 10 ^ maxDigits)

include countable

theorem splitLines_exportText (moment : Instant) :
    splitLines (exportText library entries moment) =
      chainLines library moment genesis 0 entries := by
  apply splitLines_flatMap
  intro line member char among
  obtain ⟨members, rfl, flat⟩ := chainLines_object library genesis 0
    (by rwa [Nat.zero_add]) line member
  exact isBoundary_of_printable (dumps_printable library.decoder _ flat.formed char among)

theorem chainLines_notBlank (moment : Instant) :
    (chainLines library moment genesis 0 entries).filter notBlank =
      chainLines library moment genesis 0 entries := by
  rw [filter_eq_self]
  intro line member
  obtain ⟨members, rfl, _⟩ := chainLines_object library genesis 0
    (by rwa [Nat.zero_add]) line member
  have brace : Python.isSpace '\x7b' = false := by decide
  simp [notBlank, Value.dumps, brace]

theorem exportText_records {moment : Instant} :
    ∃ events closing,
      records library (splitLines (exportText library entries moment)) =
        some (events ++ [closing]) ∧
      Linked library genesis events ∧ Closes library events closing ∧
      events.map eventOf = entries.map (canonical library) := by
  obtain ⟨events, read, chained, same⟩ := chainLines_linked library moment entries genesis 0
    (by rwa [Nat.zero_add])
  have long : events.length = entries.length := by
    have lengths := congrArg length same
    simpa using lengths
  have closes := trailer_closes library events moment
  rw [same, long] at closes
  rw [Nat.zero_add] at read
  refine ⟨events, _, ?_, chained, closes, same⟩
  rw [records, splitLines_exportText library countable, chainLines_notBlank library countable,
    read]

end

section

variable (library : Library)

def hashed (events : List Members) : List Text :=
  (linked (link library) genesis events).map fun pair => pair.1 ++ (Value.object pair.2).dumps

/-- SHA-256 gives no two of the texts linked in two chains one digest. -/
def NoCollisions (older newer : List Members) : Prop :=
  ∀ first ∈ hashed library older, ∀ second ∈ hashed library newer,
    library.sha256 first = library.sha256 second → first = second

variable {library}

theorem records_wellFormed {lines : List Text} (members : List Members)
    (read : lines.mapM (readObject library) = some members) :
    ∀ record ∈ members, (Value.object record).WellFormed library.decoder := by
  induction lines generalizing members with
  | nil =>
    obtain rfl : [] = members := by simpa using read
    exact forall_mem_nil _
  | cons line rest ih =>
    obtain ⟨first, own, others, later, rfl⟩ : ∃ first, readObject library line = some first ∧
        ∃ others, rest.mapM (readObject library) = some others ∧ first :: others = members := by
      simpa [bind_eq_some_iff] using read
    refine forall_mem_cons.mpr ⟨?_, ih others later⟩
    exact loads_wellFormed library.decoder line _ (loads_of_readObject own)

theorem linked_prev_length {events : List Members} (prev : Text) (length : prev.length = 64) :
    ∀ pair ∈ linked (link library) prev events, pair.1.length = 64 ∧ pair.2 ∈ events := by
  induction events generalizing prev with
  | nil => exact forall_mem_nil _
  | cons event rest ih =>
    refine forall_mem_cons.mpr ⟨⟨length, mem_cons_self⟩, ?_⟩
    intro pair member
    obtain ⟨long, later⟩ := ih _ (library.sha256_length _) pair member
    exact ⟨long, mem_cons_of_mem _ later⟩

theorem noCollision_of_texts {older newer : List Members}
    (olderFormed : ∀ event ∈ older, (Value.object event).WellFormed library.decoder)
    (newerFormed : ∀ event ∈ newer, (Value.object event).WellFormed library.decoder)
    (clean : NoCollisions library older newer) :
    NoCollision (link library) (linked (link library) genesis older)
      (linked (link library) genesis newer) := by
  intro one inOlder other inNewer same
  have texts := clean _ (mem_map.mpr ⟨one, inOlder, rfl⟩) _ (mem_map.mpr ⟨other, inNewer, rfl⟩) same
  obtain ⟨oneLong, oneEvent⟩ := linked_prev_length genesis rfl one inOlder
  obtain ⟨otherLong, otherEvent⟩ := linked_prev_length genesis rfl other inNewer
  obtain ⟨prevs, dumps⟩ := append_inj texts (oneLong.trans otherLong.symm)
  have events := dumps_injective library.decoder (olderFormed _ oneEvent)
    (newerFormed _ otherEvent) dumps
  exact Prod.ext prevs (Value.object.inj events)

theorem verifyExtends_ok_iff {older newer : List Text} (olderIntact : Intact library older)
    (newerIntact : Intact library newer) :
    (∃ summary, verifyExtends library older newer = .ok summary) ↔
      (eventsOf library older ≠ [] →
        (digests (link library) genesis
            (eventsOf library newer))[(eventsOf library older).length - 1]? =
          some (head (link library) genesis (eventsOf library older))) := by
  obtain ⟨olderEvents, olderClosing, olderRead, olderLinked, olderCloses⟩ := olderIntact
  obtain ⟨newerEvents, newerClosing, newerRead, newerLinked, newerCloses⟩ := newerIntact
  have olderOk := verify_ok_iff.mpr
    ⟨olderEvents, olderClosing, olderRead, olderLinked, olderCloses, rfl⟩
  have newerOk := verify_ok_iff.mpr
    ⟨newerEvents, newerClosing, newerRead, newerLinked, newerCloses, rfl⟩
  rw [eventsOf_eq olderRead, eventsOf_eq newerRead, verifyExtends, olderOk, newerOk, length_map]
  simp only [Except.bind]
  split
  · rename_i refused
    constructor
    · rintro ⟨_, impossible⟩
      cases impossible
    intro placed
    have found := placed (by simpa using length_pos_iff.mp refused.1)
    have inside := (List.getElem?_eq_some_iff.mp found).1
    rw [digests_length, length_map] at inside
    rcases refused.2 with shorter | differs
    · omega
    · exact absurd found differs
  · rename_i accepted
    refine ⟨fun _ nonempty => ?_, fun _ => ⟨_, rfl⟩⟩
    by_contra missing
    exact accepted ⟨length_pos_iff.mpr (by simpa using nonempty), Or.inr missing⟩

theorem verifyExtends_of_begins {older newer : List Text} (olderIntact : Intact library older)
    (newerIntact : Intact library newer)
    (begins : eventsOf library older <+: eventsOf library newer) :
    ∃ summary, verifyExtends library older newer = .ok summary :=
  (verifyExtends_ok_iff olderIntact newerIntact).mpr fun some_event =>
    digests_get_of_begins (link library) genesis some_event begins

theorem intact_wellFormed {lines : List Text} (intact : Intact library lines) :
    ∀ event ∈ eventsOf library lines, (Value.object event).WellFormed library.decoder := by
  obtain ⟨events, closing, read, _⟩ := intact
  rw [eventsOf_eq read]
  intro event member
  obtain ⟨record, among, rfl⟩ := mem_map.mp member
  have formed := records_wellFormed _ read record (mem_append_left _ among)
  exact without_wellFormed _ (without_wellFormed _ formed)

variable (library)

theorem verifyExtends_iff_begins (older newer : List Text) (olderIntact : Intact library older)
    (newerIntact : Intact library newer)
    (clean : NoCollisions library (eventsOf library older) (eventsOf library newer)) :
    (∃ summary, verifyExtends library older newer = .ok summary) ↔
      eventsOf library older <+: eventsOf library newer := by
  refine ⟨?_, verifyExtends_of_begins olderIntact newerIntact⟩
  intro accepted
  have separate := noCollision_of_texts
    (intact_wellFormed olderIntact)
    (intact_wellFormed newerIntact) clean
  have placed := (verifyExtends_ok_iff olderIntact newerIntact).mp accepted
  by_cases none : eventsOf library older = []
  · rw [none]
    exact nil_prefix
  · exact (digests_get_iff_begins separate none).mp (placed none)

theorem exportText_intact {entries : List AuditLogEntry} (moment : Instant)
    (countable : entries.length < 10 ^ maxDigits) :
    Intact library (splitLines (exportText library entries moment)) ∧
      eventsOf library (splitLines (exportText library entries moment)) =
        entries.map (canonical library) := by
  obtain ⟨events, closing, read, chained, closes, same⟩ := exportText_records library countable
  refine ⟨⟨events, closing, read, chained, closes⟩, ?_⟩
  rw [eventsOf_eq read, same]

/-- The audit chain detects every change. -/
theorem audit_chain_exact (library : Library) :
    (∀ lines, (∃ summary, verify library lines = .ok summary) ↔ Intact library lines) ∧
      (∀ entries moment, entries.length < 10 ^ maxDigits → ∃ summary,
        verify library (splitLines (exportText library entries moment)) = .ok summary ∧
          summary.count = entries.length ∧
          summary.head = head (link library) genesis (entries.map (canonical library)) ∧
          eventsOf library (splitLines (exportText library entries moment)) =
            entries.map (canonical library)) ∧
      ∀ older newer, Intact library older → Intact library newer →
        NoCollisions library (eventsOf library older) (eventsOf library newer) →
        ((∃ summary, verifyExtends library older newer = .ok summary) ↔
          eventsOf library older <+: eventsOf library newer) := by
  refine ⟨verify_accepts_iff library, ?_, verifyExtends_iff_begins library⟩
  intro entries moment countable
  obtain ⟨events, closing, read, chained, closes, same⟩ := exportText_records library countable
  refine ⟨_, verify_ok_iff.mpr ⟨events, closing, read, chained, closes, rfl⟩, ?_, ?_, ?_⟩
  · have lengths := congrArg length same
    simpa using lengths
  · rw [same]
  · rw [eventsOf_eq read, same]

/-- A digest of 64 hexadecimal digits that tells short texts apart. -/
def sampleLibrary : Library where
  decoder := .coarse
  sha256 := fun text => hexDigits 64 (text.foldl (fun code char => code * 31 + char.toNat) 7)
  sha256_length := fun _ => hexDigits_length 64 _
  isoformat := Nat.toDigits 10

def sampleEntry (id : Uuid) : AuditLogEntry :=
  { id := id, actorKind := "system".toList, actorId := none, targetKind := "user".toList,
    targetId := 5, eventCode := "user_created".toList, outcome := "success".toList,
    reasonCode := none, requestId := none, recordedAt := 3 }

theorem audit_chain_exact_sample :
    ∃ summary, verifyExtends sampleLibrary
      (splitLines (exportText sampleLibrary [sampleEntry 1] 9))
      (splitLines (exportText sampleLibrary [sampleEntry 1, sampleEntry 2] 10)) = .ok summary := by
  obtain ⟨accepts, exported, extended⟩ := audit_chain_exact sampleLibrary
  obtain ⟨_, older, _, _, olderEvents⟩ := exported [sampleEntry 1] 9
    (by decide +kernel)
  obtain ⟨_, newer, _, _, newerEvents⟩ := exported [sampleEntry 1, sampleEntry 2] 10
    (by decide +kernel)
  refine (extended _ _ ((accepts _).mp ⟨_, older⟩) ((accepts _).mp ⟨_, newer⟩) ?_).mpr ?_
  · rw [olderEvents, newerEvents]
    unfold NoCollisions
    decide +kernel
  · rw [olderEvents, newerEvents]
    exact prefix_append [canonical sampleLibrary (sampleEntry 1)] _

end

end Nebula.Audit
