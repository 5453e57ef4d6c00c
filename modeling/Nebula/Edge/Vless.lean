import Nebula.Edge.Relay
import Nebula.Utf8

/-!
# The header a stream opens with

`parseRequest` of `vless.js`, over what is left of the bytes at each place it reads. Which
error it returns is left out: the stream is closed without saying it.
-/

namespace Nebula.Edge.Vless

open Json List Option

def mark : Bytes := [0xEF, 0xBB, 0xBF]

variable (bytes : Bytes)

def unmark : Bytes := if mark <+: bytes then bytes.drop 3 else bytes

/-- `new TextDecoder().decode`. -/
def decode : Text := Utf8.utf8 none (unmark bytes)

/-- `[A-Za-z0-9._-]`. -/
def isNameChar (char : Char) : Bool :=
  let within (low high : Char) := decide (low.toNat ≤ char.toNat ∧ char.toNat ≤ high.toNat)
  within 'A' 'Z' || within 'a' 'z' || within '0' '9' || ['.', '_', '-'].contains char

def v4Hostname : Text :=
  ['.'].intercalate (bytes.map fun byte => Nat.toDigits 10 byte.toNat)

def groups : Bytes → List Text
  | high :: low :: rest => Nat.toDigits 16 (high.toNat <<< 8 ||| low.toNat) :: groups rest
  | _ => []

def v6Hostname : Text := '[' :: ([':'].intercalate (groups bytes) ++ [']'])

structure Request where
  version : UInt8
  command : UInt8
  hostname : Text
  port : Nat
  payload : Bytes

def readAddress (type : UInt8) (rest : Bytes) : Option (Text × Bytes) :=
  if type = 1 then
    if rest.length < 4 then none else some (v4Hostname (rest.take 4), rest.drop 4)
  else if type = 2 then
    match rest with
    | [] => none
    | length :: rest =>
      let hostname := decode (rest.take length.toNat)
      if length = 0 ∨ rest.length < length.toNat then none
      else if hostname ≠ [] ∧ hostname.all isNameChar then
        some (hostname, rest.drop length.toNat)
      else none
  else if type = 3 then
    if rest.length < 16 then none else some (v6Hostname (rest.take 16), rest.drop 16)
  else none

def parseRequest (ids : List Bytes) : Option Request :=
  match bytes with
  | [] => none
  | version :: rest =>
    match rest.drop 16 with
    | [] => none
    | addons :: left =>
      if ids.contains (rest.take 16) then
        match left.drop addons.toNat with
        | command :: high :: low :: type :: rest =>
          (readAddress type rest).bind fun (hostname, payload) =>
            let port := high.toNat <<< 8 ||| low.toNat
            if port ≠ 0 ∧ (command = 1 ∨ command = 2) then
              some ⟨version, command, hostname, port, payload⟩
            else none
        | _ => none
      else none

inductive Address where
  | v4 (bytes : Bytes) (four : bytes.length = 4)
  | name (length : UInt8) (bytes : Bytes) (sized : bytes.length = length.toNat) (some : length ≠ 0)
  | v6 (bytes : Bytes) (sixteen : bytes.length = 16)

namespace Address

def encode : Address → Bytes
  | v4 bytes _ => 1 :: bytes
  | name length bytes .. => 2 :: length :: bytes
  | v6 bytes _ => 3 :: bytes

def AllNameChars (bytes : Bytes) : Prop := ∀ byte ∈ bytes, isNameChar (Char.ofNat byte.toNat)

def WellFormed : Address → Prop
  | name _ bytes .. => AllNameChars bytes
  | _ => True

/-- What is accepted: a byte order mark before the name is not looked at. -/
def Accepted : Address → Prop
  | name _ bytes .. => unmark bytes ≠ [] ∧ AllNameChars (unmark bytes)
  | _ => True

def Marked : Address → Prop
  | name _ bytes .. => mark <+: bytes
  | _ => False

def hostname : Address → Text
  | v4 bytes _ => v4Hostname bytes
  | name _ bytes .. => (unmark bytes).map fun byte => Char.ofNat byte.toNat
  | v6 bytes _ => v6Hostname bytes

end Address

structure Header where
  version : UInt8
  uuid : Bytes
  sixteen : uuid.length = 16
  addonsLength : UInt8
  addons : Bytes
  sized : addons.length = addonsLength.toNat
  command : UInt8
  high : UInt8
  low : UInt8
  address : Address

namespace Header

variable (header : Header)

def encode : Bytes :=
  header.version :: (header.uuid ++ header.addonsLength :: (header.addons ++
    header.command :: header.high :: header.low :: header.address.encode))

def port : Nat := header.high.toNat <<< 8 ||| header.low.toNat

structure WellFormed (ids : List Bytes) (formed : Address → Prop) : Prop where
  admitted : header.uuid ∈ ids
  command : header.command = 1 ∨ header.command = 2
  port : header.port ≠ 0
  address : formed header.address

def request (payload : Bytes) : Request :=
  ⟨header.version, header.command, header.address.hostname, header.port, payload⟩

end Header

theorem isNameChar_lt {char : Char} (named : isNameChar char = true) : char.toNat < 128 := by
  simp [isNameChar] at named
  rcases named with ((upper | lower) | digit) | rfl | rfl | rfl
  · omega
  · omega
  · omega
  · decide
  · decide
  · decide

open Address in
theorem utf8_named {bytes : Bytes} (named : AllNameChars bytes) :
    Utf8.utf8 none bytes = bytes.map fun byte => Char.ofNat byte.toNat :=
  Utf8.utf8_ascii fun byte member =>
    (by decide +kernel : ∀ byte : Fin 256, isNameChar (Char.ofNat byte.val) = true → byte.val < 128)
      ⟨byte.toNat, byte.toNat_lt⟩ (named byte member)

open Address in
theorem named_utf8 {bytes : Bytes} (named : (Utf8.utf8 none bytes).all isNameChar = true) :
    AllNameChars bytes := by
  by_cases wide : ∃ byte ∈ bytes, 128 ≤ byte.toNat
  · obtain ⟨byte, member, high⟩ := wide
    obtain ⟨char, found, high⟩ := Utf8.utf8_wide member high
    have low := isNameChar_lt (all_eq_true.mp named char found)
    omega
  · rw [Utf8.utf8_ascii (by simpa using wide)] at named
    simpa [AllNameChars] using named

section

variable {rest payload : Bytes} {type : UInt8} {hostname : Text}

theorem readAddress_encode {address : Address} (formed : address.Accepted)
    (read : type :: rest = address.encode ++ payload) :
    readAddress type rest = some (address.hostname, payload) := by
  cases address with
  | v4 bytes four =>
    cases read
    simp [readAddress, Address.hostname, take_left' four, drop_left' four, four]
  | name length bytes sized positive =>
    cases read
    have enough : ¬ bytes.length + payload.length < bytes.length := by omega
    have ⟨ne, all⟩ := formed
    simp [readAddress, Address.hostname, positive, ← sized, decode, utf8_named all, ne, enough]
    exact all
  | v6 bytes sixteen =>
    cases read
    simp [readAddress, Address.hostname, take_left' sixteen, drop_left' sixteen, sixteen]

theorem readAddress_sound (read : readAddress type rest = some (hostname, payload)) :
    ∃ address : Address, address.Accepted ∧ type :: rest = address.encode ++ payload ∧
      hostname = address.hostname := by
  unfold readAddress at read
  split at read
  · simp only [ite_none_left_eq_some, some.injEq, Prod.mk.injEq] at read
    obtain ⟨long, rfl, rfl⟩ := read
    refine ⟨.v4 (rest.take 4) (by simp; omega), trivial, ?_, rfl⟩
    simp_all [Address.encode]
  split at read
  · cases rest with
    | nil => cases read
    | cons length rest =>
      simp only [ite_none_left_eq_some, ite_none_right_eq_some, not_or,
        some.injEq, Prod.mk.injEq] at read
      obtain ⟨⟨positive, long⟩, named, rfl, rfl⟩ := read
      have sized : (rest.take length.toNat).length = length.toNat := by
        rw [length_take]
        omega
      have formed := named_utf8 named.2
      have same := utf8_named formed
      refine ⟨.name length (rest.take length.toNat) sized positive, ⟨?_, formed⟩, ?_, same⟩
      · intro nothing
        exact named.1 (by rw [decode, nothing]; rfl)
      · simp_all [Address.encode]
  split at read
  · simp only [ite_none_left_eq_some, some.injEq, Prod.mk.injEq] at read
    obtain ⟨long, rfl, rfl⟩ := read
    refine ⟨.v6 (rest.take 16) (by simp; omega), trivial, ?_, rfl⟩
    simp_all [Address.encode]
  · cases read

end

theorem parseRequest_iff {bytes : Bytes} {ids : List Bytes}
    (sixteen : ∀ id ∈ ids, id.length = 16) (request : Request) :
    parseRequest bytes ids = some request ↔ ∃ header payload,
      Header.WellFormed header ids Address.Accepted ∧ bytes = header.encode ++ payload ∧
      request = header.request payload := by
  constructor
  · intro parsed
    unfold parseRequest at parsed
    split at parsed
    · cases parsed
    rename_i version rest
    split at parsed
    · cases parsed
    rename_i addonsLength left counted
    split at parsed
    swap
    · cases parsed
    rename_i admitted
    split at parsed
    swap
    · cases parsed
    rename_i command high low type after read
    obtain ⟨⟨hostname, payload⟩, located, accepted⟩ := bind_eq_some_iff.mp parsed
    simp only [ite_none_right_eq_some, some.injEq] at accepted
    obtain ⟨⟨port, known⟩, rfl⟩ := accepted
    have admitted := contains_iff_mem.mp admitted
    have sized : (left.take addonsLength.toNat).length = addonsLength.toNat := by
      have long := congrArg length read
      rw [length_drop, length_cons] at long
      rw [length_take]
      omega
    obtain ⟨address, formed, same, rfl⟩ := readAddress_sound located
    have addons : left.take addonsLength.toNat ++
        command :: high :: low :: (address.encode ++ payload) = left := by
      rw [← same, ← read, take_append_drop]
    have uuid : rest.take 16 ++ addonsLength :: left = rest := by
      rw [← counted, take_append_drop]
    exact ⟨⟨version, rest.take 16, sixteen _ admitted, addonsLength,
      left.take addonsLength.toNat, sized, command, high, low, address⟩, payload,
      ⟨admitted, known, port, formed⟩, by simp [Header.encode, addons, uuid], rfl⟩
  · rintro ⟨header, payload, formed, rfl, rfl⟩
    obtain ⟨type, rest, read⟩ : ∃ type rest, header.address.encode ++ payload = type :: rest := by
      cases header.address <;> exact ⟨_, _, rfl⟩
    have address := readAddress_encode formed.address read.symm
    have port := formed.port
    simp only [Header.port] at port
    simp [Header.encode, parseRequest, take_left' header.sixteen, drop_left' header.sixteen,
      formed.admitted, drop_left' header.sized, read, address, Header.request, Header.port, port,
      formed.command]

theorem Address.encode_inj {address other : Address} {payload left : Bytes}
    (same : address.encode ++ payload = other.encode ++ left) : address = other := by
  cases address <;> cases other <;> simp [encode] at same ⊢
  case v4.v4 four _ four' => exact append_inj_left same (four.trans four'.symm)
  case v6.v6 sixteen _ sixteen' => exact append_inj_left same (sixteen.trans sixteen'.symm)
  case name.name sized _ _ _ sized' _ =>
    obtain ⟨rfl, same⟩ := same
    exact ⟨rfl, append_inj_left same (sized.trans sized'.symm)⟩

theorem address_unique {header other : Header} {payload left : Bytes}
    (same : header.encode ++ payload = other.encode ++ left) : header.address = other.address := by
  simp only [Header.encode, cons_append, append_assoc, cons.injEq] at same
  have after := append_inj_right same.2 (header.sixteen.trans other.sixteen.symm)
  obtain ⟨sized, after⟩ := cons.inj after
  have after := append_inj_right after (by rw [header.sized, other.sized, sized])
  exact Address.encode_inj (cons.inj (cons.inj (cons.inj after).2).2).2

theorem Address.wellFormed_iff (address : Address) :
    address.WellFormed ↔ address.Accepted ∧ ¬ address.Marked := by
  cases address with
  | name length bytes sized positive =>
    have ne : bytes ≠ [] := by
      rintro rfl
      exact positive (UInt8.toNat_inj.mp sized.symm)
    simp only [WellFormed, Accepted, Marked, unmark]
    split
    · rename_i marked
      refine iff_of_false (fun named => ?_) fun accepted => accepted.2 marked
      exact absurd (named 0xEF (marked.subset (by decide))) (by decide)
    · simp [*]
  | _ => simp [WellFormed, Accepted, Marked]

/-- What the parser accepts of these bytes, and what it returns, is a well-formed header. -/
def Exact (bytes : Bytes) (ids : List Bytes) : Prop :=
  ∀ request, parseRequest bytes ids = some request ↔ ∃ header payload,
    Header.WellFormed header ids Address.WellFormed ∧ bytes = header.encode ++ payload ∧
    request = header.request payload

theorem parseRequest_exact {bytes : Bytes} {ids : List Bytes}
    (sixteen : ∀ id ∈ ids, id.length = 16) :
    Exact bytes ids ↔ ∀ header payload, bytes = Header.encode header ++ payload →
      header.WellFormed ids Address.Accepted → ¬ header.address.Marked := by
  simp only [Exact, parseRequest_iff sixteen]
  constructor
  · rintro exactly header payload whole accepted marked
    obtain ⟨other, left, formed, same, -⟩ :=
      (exactly _).mp ⟨header, payload, accepted, whole, rfl⟩
    have address := address_unique (whole.symm.trans same)
    exact (other.address.wellFormed_iff.mp formed.address).2 (address ▸ marked)
  · intro unmarked request
    refine exists_congr fun header => exists_congr fun payload =>
      and_congr_left fun ⟨whole, _⟩ => ?_
    have formed := header.address.wellFormed_iff
    constructor
    · intro accepted
      exact { accepted with
        address := formed.mpr ⟨accepted.address, unmarked header payload whole accepted⟩ }
    · intro wellFormed
      exact { wellFormed with address := (formed.mp wellFormed.address).1 }

def opening (address : Address) : Header :=
  ⟨0, replicate 16 7, rfl, 0, [], rfl, 1, 1, 187, address⟩

def named : Header := opening (.name 3 [97, 46, 98] rfl (by decide))

theorem parseRequest_exact_named :
    parseRequest (named.encode ++ [9]) [named.uuid] =
      some ⟨0, 1, "a.b".toList, 443, [9]⟩ := by
  refine ((parseRequest_exact (by simp [named, opening])).mpr ?_ _).mpr
    ⟨named, [9], ⟨by simp, Or.inl rfl, by decide, ?_⟩, rfl, rfl⟩
  · intro header payload same _
    rw [← address_unique same]
    exact (by decide : ¬ mark <+: ([97, 46, 98] : Bytes))
  · exact all_eq_true.mp
      (by decide : ([97, 46, 98] : Bytes).all fun byte => isNameChar (Char.ofNat byte.toNat))

/-- The decoder takes the mark off before the name is looked at. -/
theorem marked_name_accepted :
    let marked := opening (.name 4 (mark ++ [97]) rfl (by decide))
    parseRequest (marked.encode ++ [9]) [marked.uuid] = some ⟨0, 1, ['a'], 443, [9]⟩ ∧
      ¬ marked.WellFormed [marked.uuid] Address.WellFormed :=
  ⟨rfl, fun formed => absurd (formed.address 0xEF (by decide)) (by decide)⟩

end Nebula.Edge.Vless
