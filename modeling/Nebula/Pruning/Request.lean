import Nebula.ControlPlane.Reconciliation
import Nebula.Python

/-!
# The prune request and its size

`_prune_one_server` sends an agent one object for each client its server should hold, in one body,
and the agent's routes refuse a body of more than `_MAX_OPERATION_BODY_BYTES`.

Here the text of a profile code counts, not only which it is. The client writes the body with the
separators of its HTTP library; the size is given for any.
-/

namespace Nebula.Pruning

open Schema Store Json ControlPlane List
open Python (uuidText)

/-- The live clients of a server, each with the code its agent knows the profile by. -/
def pruneRows (tables : Tables) (serverId : Uuid) : List (Row × ProfileCode) :=
  tables.rows.filterMap fun row =>
    if row.kind == .xrayClient && row.serverId == serverId && row.live then
      (tables.profile row.profileId).map fun profile => (row, profile.agentCode)
    else none

def decryptClientUuid (tables : Tables) (row : Row) : Option Uuid :=
  match row.runtime with
  | .xrayClient clientUuid => if credentialReadable tables row then some clientUuid else none
  | .wireguardPeer _ _ => none

def codeChar (char : Char) : Bool :=
  char.isLower || char.isDigit

/-- `_PROFILE_CODE_PATTERN`: `^[a-z0-9][a-z0-9-]{0,63}$`. -/
def matchesProfileCode : Text → Bool
  | [] => false
  | first :: rest =>
    codeChar first && rest.length ≤ 63 && rest.all fun char => codeChar char || char == '-'

/-- The model checks its code when it is built. -/
structure ExpectedXrayClient where
  clientUuid : Uuid
  protocolProfileCode : Text
  valid : matchesProfileCode protocolProfileCode = true

structure PruneXrayClientsRequest where
  correlationId : Uuid
  expected : List ExpectedXrayClient

section

variable (codeText : ProfileCode → Text) (tables : Tables)

/-- An unreadable credential skips the server, a code that does not match raises: either way nothing
is sent. -/
def expectedClients : List (Row × ProfileCode) → Option (List ExpectedXrayClient)
  | [] => some []
  | (row, code) :: rest =>
    match decryptClientUuid tables row with
    | none => none
    | some clientUuid =>
      if valid : matchesProfileCode (codeText code) = true then
        (expectedClients rest).map fun expected =>
          ⟨clientUuid, codeText code, valid⟩ :: expected
      else none

def pruneRequest (serverId correlationId : Uuid) : Option PruneXrayClientsRequest :=
  (expectedClients codeText tables (pruneRows tables serverId)).map fun expected =>
    ⟨correlationId, expected⟩

end

variable (separators : Separators)

def ExpectedXrayClient.json (client : ExpectedXrayClient) : Text :=
  object separators
    [("client_uuid".toList, quoted (uuidText client.clientUuid)),
      ("protocol_profile_code".toList, quoted client.protocolProfileCode)]

def PruneXrayClientsRequest.json (request : PruneXrayClientsRequest) :
    Text :=
  object separators
    [("correlation_id".toList, quoted (uuidText request.correlationId)),
      ("expected".toList,
        array separators (request.expected.map (ExpectedXrayClient.json separators)))]

structure HTTPException where
  statusCode : Nat
  detail : String
  deriving DecidableEq

def maxOperationBodyBytes : Nat :=
  16 * 1024

def enforceBodySizeLimit (contentLength : Option Nat) : Except HTTPException Unit :=
  match contentLength with
  | none => .ok ()
  | some length =>
    if length > maxOperationBodyBytes then .error ⟨413, "request body too large"⟩ else .ok ()

/-- The HTTP library declares the length of the body it sends. -/
def pruneAdmitted (request : PruneXrayClientsRequest) :
    Except HTTPException Unit :=
  enforceBodySizeLimit (some (byteSize (request.json separators)))

def pruneBodyBytes (codeLengths : List Nat) : Nat :=
  68 + 2 * byteSize separators.key + byteSize separators.item +
    (codeLengths.map fun length =>
      78 + 2 * byteSize separators.key + byteSize separators.item + length).sum +
    (codeLengths.length - 1) * byteSize separators.item

theorem uuidText_length (id : Uuid) : (uuidText id).length = 36 := by
  simp [uuidText, hexDigits_length]

theorem uuidText_plain {id : Uuid} : ∀ char ∈ uuidText id, plain char = true := by
  have hyphen : plain '-' = true := by decide
  have digits : ∀ count value, ∀ char ∈ hexDigits count value, plain char = true :=
    forall_hexDigits (by decide)
  intro char member
  simp only [uuidText, mem_append, mem_cons] at member
  rcases member with digit | rfl | digit | rfl | digit | rfl | digit | rfl | digit
  all_goals first | exact digits _ _ char digit | exact hyphen

theorem codeChar_plain {char : Char} (holds : codeChar char = true) : plain char = true := by
  have range : 48 ≤ char.toNat ∧ char.toNat ≤ 57 ∨ 97 ≤ char.toNat ∧ char.toNat ≤ 122 := by
    have lower : char.isLower = (decide (97 ≤ char.val) && decide (char.val ≤ 122)) := rfl
    have digit : char.isDigit = (decide (48 ≤ char.val) && decide (char.val ≤ 57)) := rfl
    simp only [codeChar, lower, digit, Bool.or_eq_true, Bool.and_eq_true, decide_eq_true_eq,
      UInt32.le_iff_toNat_le] at holds
    exact holds.symm
  have differs : ∀ other : Char, ¬ (48 ≤ other.toNat ∧ other.toNat ≤ 57 ∨
      97 ≤ other.toNat ∧ other.toNat ≤ 122) → char ≠ other := by
    intro other outside same
    exact outside (same ▸ range)
  simp only [plain, Bool.and_eq_true, decide_eq_true_eq, bne_iff_ne]
  exact ⟨⟨by omega, differs '\x22' (by decide)⟩, differs '\x5c' (by decide)⟩

theorem matchesProfileCode_plain {code : Text} (valid : matchesProfileCode code = true) :
    ∀ char ∈ code, plain char = true := by
  have hyphen : plain '-' = true := by decide
  cases code with
  | nil => simp
  | cons first rest =>
    simp only [matchesProfileCode, Bool.and_eq_true, all_eq_true, Bool.or_eq_true,
      beq_iff_eq] at valid
    obtain ⟨⟨head, _⟩, tail⟩ := valid
    intro char member
    rcases mem_cons.mp member with rfl | later
    · exact codeChar_plain head
    · rcases tail char later with code | rfl
      · exact codeChar_plain code
      · exact hyphen

variable (separators : Separators)

theorem client_bytes {client : ExpectedXrayClient} :
    byteSize (client.json separators) =
      78 + 2 * byteSize separators.key + byteSize separators.item +
        client.protocolProfileCode.length := by
  have uuidKey : byteSize (quoted "client_uuid".toList) = 13 := by decide
  have codeKey : byteSize (quoted "protocol_profile_code".toList) = 23 := by decide
  simp only [ExpectedXrayClient.json, byteSize_object_pair, uuidKey, codeKey,
    byteSize_quoted uuidText_plain, uuidText_length,
    byteSize_quoted (matchesProfileCode_plain client.valid)]
  omega

theorem request_bytes (request : PruneXrayClientsRequest) :
    byteSize (request.json separators) = pruneBodyBytes separators
      (request.expected.map fun client => client.protocolProfileCode.length) := by
  have idKey : byteSize (quoted "correlation_id".toList) = 16 := by decide
  have expectedKey : byteSize (quoted "expected".toList) = 10 := by decide
  have clients : (request.expected.map (ExpectedXrayClient.json separators)).map byteSize =
      (request.expected.map fun client => client.protocolProfileCode.length).map fun length =>
        78 + 2 * byteSize separators.key + byteSize separators.item + length := by
    simp only [map_map]
    exact map_congr_left fun client _ => client_bytes separators
  simp only [PruneXrayClientsRequest.json, byteSize_object_pair, byteSize_array, idKey,
    expectedKey, byteSize_quoted uuidText_plain, uuidText_length, clients, length_map,
    pruneBodyBytes]
  omega

example : PruneXrayClientsRequest.json .compact ⟨9, []⟩ =
    "\x7b\"correlation_id\":\"00000000-0000-0000-0000-000000000009\",\"expected\":[]\x7d".toList :=
  by decide

theorem expectedClients_codes {codeText : ProfileCode → Text} {tables : Tables}
    {rows : List (Row × ProfileCode)} (expected : List ExpectedXrayClient)
    (built : expectedClients codeText tables rows = some expected) :
    expected.map ExpectedXrayClient.protocolProfileCode =
      rows.map fun entry => codeText entry.2 := by
  induction rows generalizing expected with
  | nil =>
    cases built
    rfl
  | cons entry rest ih =>
    simp only [expectedClients] at built
    split at built
    · cases built
    split at built
    · obtain ⟨later, builtLater, same⟩ := Option.map_eq_some_iff.mp built
      subst same
      rw [map_cons, map_cons, ih later builtLater]
    · cases built

theorem pruneRequest_bytes {codeText : ProfileCode → Text}
    {tables : Tables} {serverId correlationId : Uuid} {request : PruneXrayClientsRequest}
    (built : pruneRequest codeText tables serverId correlationId = some request) :
    byteSize (request.json separators) = pruneBodyBytes separators
      ((pruneRows tables serverId).map fun entry => (codeText entry.2).length) := by
  obtain ⟨expected, builtExpected, same⟩ := Option.map_eq_some_iff.mp built
  subst same
  have codes := expectedClients_codes expected builtExpected
  have lengths : (expected.map fun client => client.protocolProfileCode.length) =
      (pruneRows tables serverId).map fun entry => (codeText entry.2).length := by
    simpa [Function.comp_def] using congrArg (map length) codes
  rw [request_bytes, lengths]

/-- Exactly when the live clients and their codes leave the body within the limit. -/
theorem prune_admitted_iff (separators : Separators) (codeText : ProfileCode → Text)
    (tables : Tables) (serverId correlationId : Uuid) (request : PruneXrayClientsRequest)
    (built : pruneRequest codeText tables serverId correlationId = some request) :
    pruneAdmitted separators request = .ok () ↔
      pruneBodyBytes separators
          ((pruneRows tables serverId).map fun entry => (codeText entry.2).length) ≤
        maxOperationBodyBytes := by
  rw [pruneAdmitted, enforceBodySizeLimit, pruneRequest_bytes separators built]
  split
  · rename_i large
    constructor
    · intro accepted
      cases accepted
    · intro within
      omega
  · rename_i within
    exact ⟨fun _ => Nat.not_lt.mp within, fun _ => rfl⟩

def vlessCode (_ : ProfileCode) : Text :=
  "vless-xhttp-tls".toList

def clientRow (index : Nat) : Row :=
  ⟨2000 + index, 3000 + index, 1000 + index, 5, 3, .xrayClient (4000 + index), .active, 1,
    some 10, none, 10⟩

def clientCredential (index : Nat) : Credential :=
  ⟨3000 + index, .xrayBearer, 1000 + index, 5, 3, .active, 9, none, true⟩

def clientTables (count : Nat) : Tables where
  users := [⟨1, .active, none, none, 0, none⟩]
  devices := (List.range count).map fun index => ⟨1000 + index, 1, .active⟩
  permissions := [⟨1, 5, .enabled, none⟩]
  assignments := [⟨1, 3, .active, none⟩]
  servers := [⟨3, 30, .active, 200, none, none⟩]
  profiles := [⟨5, 50, none, .implemented⟩]
  capabilities := [⟨3, 5, .enabled, none⟩]
  rows := (List.range count).map clientRow
  credentials := (List.range count).map clientCredential
  operations := []
  usage := []

theorem clientTables_consistent {count : Nat} : (clientTables count).Consistent := by
  have distinct : ∀ first, ((range count).map fun index => first + index).Nodup := by
    intro first
    exact nodup_range.map fun one other same => Nat.add_left_cancel same
  have devices : ((range count).map fun index => (1000 + index, 5, 3)).Nodup :=
    nodup_range.map fun one other same => Nat.add_left_cancel (Prod.mk.inj same).1
  have empty : ∀ {Key : Type} (index : Nat → Option Key), (∀ place, index place = none) →
      ((range count).filterMap index).Nodup := by
    intro Key index nothing
    rw [filterMap_eq_nil_iff.mpr fun place _ => nothing place]
    exact nodup_nil
  constructor
  case clientDevices | credentials =>
    simp only [clientTables, UniqueOn, filterMap_map]
    exact (filterMap_eq_map (f := fun index => (1000 + index, 5, 3))) ▸ devices
  case peerKeys | peerAddresses | peerDevices =>
    simp only [clientTables, UniqueOn, filterMap_map]
    exact empty _ fun _ => rfl
  case rowTimes | credentialTimes =>
    intro record member
    obtain ⟨index, _, rfl⟩ := mem_map.mp member
    rfl
  case rowCredentials =>
    intro row member
    obtain ⟨index, inRange, rfl⟩ := mem_map.mp member
    refine ⟨clientCredential index, mem_map_of_mem inRange, ?_⟩
    simp [credentialMatches, clientRow, clientCredential, Row.kind, Runtime.kind,
      TargetKind.credentialKind]
  all_goals simp [clientTables, UniqueOn, distinct, Function.comp_def, clientRow,
    clientCredential]

theorem prune_admitted_iff_largest :
    (clientTables 168).Consistent ∧
      ∃ request, pruneRequest vlessCode (clientTables 168) 3 9 = some request ∧
        pruneAdmitted .compact request = .ok () := by
  have sent : (pruneRequest vlessCode (clientTables 168) 3 9).isSome = true := by decide +kernel
  obtain ⟨request, built⟩ := Option.isSome_iff_exists.mp sent
  exact ⟨clientTables_consistent, request, built,
    (prune_admitted_iff .compact vlessCode (clientTables 168) 3 9 request built).mpr
      (by decide +kernel)⟩

/-- The server may hold 200 clients; a request for 169 is refused. -/
theorem prune_refused_oneMore :
    (clientTables 169).Consistent ∧
      (∃ server ∈ (clientTables 169).servers, server.id = 3 ∧ server.maximumDevices ≤ 100000 ∧
        (pruneRows (clientTables 169) 3).length ≤ server.maximumDevices) ∧
      ∃ request, pruneRequest vlessCode (clientTables 169) 3 9 = some request ∧
        pruneAdmitted .compact request = .error ⟨413, "request body too large"⟩ := by
  have sent : (pruneRequest vlessCode (clientTables 169) 3 9).isSome = true := by decide +kernel
  obtain ⟨request, built⟩ := Option.isSome_iff_exists.mp sent
  have large : byteSize (request.json .compact) > maxOperationBodyBytes := by
    rw [pruneRequest_bytes .compact built]
    decide +kernel
  refine ⟨clientTables_consistent, by decide +kernel, request, built, ?_⟩
  simp only [pruneAdmitted, enforceBodySizeLimit, large, if_true]

end Nebula.Pruning
