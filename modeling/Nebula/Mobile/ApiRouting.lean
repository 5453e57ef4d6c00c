import Nebula.Json

/-!
# Where the tunnel sends the app's own API

The rules of `renderXrayClientConfigJson`, and what `windowsXrayTunConfig` and
`linuxXrayTunConfig` make of them. Xray takes the first rule that matches, and the first
outbound, the server, where none does.
-/

namespace Nebula.Mobile.ApiRouting

open Json

inductive Tag where
  | proxy | direct | adBlock | dnsOut | localDirect

inductive Inbound where
  | socksIn | tunIn | nebulaDns
  deriving DecidableEq

/-- Beside `full:` and `domain:` a list of the app's own, or of the geo files. -/
inductive Domain where
  | full (name : Text)
  | domain (name : Text)
  | adBlockDomains | sanctionedDomains | geositeCategoryIr

inductive IpRange where
  | bypassed (text : Text)
  | geoipIr | geoipPrivate

/-- What lists and ranges match, and which of the texts that skip the VPN is an address. -/
structure Geo (Address : Type) where
  site : Domain → Text → Bool
  full : ∀ host name, site (.full host) name = (name == host)
  range : IpRange → Address → Bool
  isBypassAddress : Text → Bool

structure Rule where
  outboundTag : Tag
  inboundTag : Option Inbound := none
  port : Option Nat := none
  domain : Option (List Domain) := none
  ip : Option (List IpRange) := none

structure Connection (Address : Type) where
  inbound : Inbound
  port : Nat
  name : Option Text
  address : Address

structure Config where
  inbound : Inbound
  sniffing : Bool
  rules : List Rule

inductive SniffingMode where
  | always | never | whenRoutingNeedsIt

structure AdvancedSettings where
  sanctionedOnly : Bool
  iranDirect : Bool
  bypassDomains : List Text
  sniffing : SniffingMode

variable {Address : Type} (geo : Geo Address) (adBlock : Bool) (settings : AdvancedSettings)
  (apiHosts : List Text)

def routesAnythingDirect : Bool :=
  settings.sanctionedOnly || !settings.bypassDomains.isEmpty || settings.iranDirect

def sniffingEnabledFor : Bool :=
  routesAnythingDirect settings ||
    match settings.sniffing with
    | .always => true
    | .never => false
    | .whenRoutingNeedsIt => adBlock

def apiRules : List Rule :=
  if routesAnythingDirect settings && !apiHosts.isEmpty then
    [{ outboundTag := .proxy, domain := some (apiHosts.map .full) }]
  else []

def otherRules : List Rule := List.flatten
  [if adBlock then [{ outboundTag := .adBlock, domain := some [.adBlockDomains] }] else [],
    if settings.bypassDomains.any (!geo.isBypassAddress ·) then
      [{ outboundTag := .direct
         domain := some ((settings.bypassDomains.filter (!geo.isBypassAddress ·)).map .domain) }]
    else [],
    if settings.bypassDomains.any geo.isBypassAddress then
      [{ outboundTag := .direct
         ip := some ((settings.bypassDomains.filter geo.isBypassAddress).map .bypassed) }]
    else [],
    if settings.iranDirect then
      [{ outboundTag := .direct, domain := some [.domain "ir".toList, .geositeCategoryIr] },
        { outboundTag := .direct, ip := some [.geoipIr] }]
    else [],
    if settings.sanctionedOnly then
      [{ outboundTag := .proxy, domain := some [.sanctionedDomains] },
        { outboundTag := .proxy, port := some 53 }, { outboundTag := .direct }]
    else []]

def renderXrayClientConfig : Config where
  inbound := .socksIn
  sniffing := sniffingEnabledFor adBlock settings
  rules := apiRules settings apiHosts ++ otherRules geo adBlock settings

/-- `windowsXrayTunConfig`; `linuxXrayTunConfig` has no local network of its own. -/
def tunConfig (localNetworkDirect : Bool) (config : Config) : Config where
  inbound := .tunIn
  sniffing := false
  rules :=
    { outboundTag := .dnsOut, inboundTag := some .tunIn, port := some 53 } ::
    { outboundTag := .proxy, inboundTag := some .nebulaDns } ::
    (if localNetworkDirect then
      [{ outboundTag := .localDirect, inboundTag := some .tunIn, ip := some [.geoipPrivate] }]
      else []) ++ config.rules

def Rule.matches (rule : Rule) (connection : Connection Address) : Bool :=
  rule.inboundTag.all (· == connection.inbound) && rule.port.all (· == connection.port) &&
    rule.domain.all (fun domains => connection.name.any fun name =>
      domains.any fun domain => geo.site domain name) &&
    rule.ip.all fun ranges => ranges.any fun range => geo.range range connection.address

def route (rules : List Rule) (connection : Connection Address) : Tag :=
  ((rules.find? fun rule => rule.matches geo connection).map Rule.outboundTag).getD .proxy

inductive Platform where
  | mobile
  | desktop (localNetworkDirect : Bool)

def config : Platform → Config
  | .mobile => renderXrayClientConfig geo adBlock settings apiHosts
  | .desktop localNetworkDirect =>
    tunConfig localNetworkDirect (renderXrayClientConfig geo adBlock settings apiHosts)

/-- A connection through the tunnel to an API host, which is a name or, with `none`, an address. -/
structure ToApi (platform : Platform) (host : Option Text) (connection : Connection Address) :
    Prop where
  inbound : connection.inbound = (config geo adBlock settings apiHosts platform).inbound
  port : connection.port ≠ 53
  known : ∀ name ∈ host, name ∈ apiHosts ∧ geo.site .adBlockDomains name = false
  name : connection.name =
    if (config geo adBlock settings apiHosts platform).sniffing then host else none
  isPublic : geo.range .geoipPrivate connection.address = false

/-- An address rule takes the connection past the server, or the rule for whatever is left. -/
def SentDirect (address : Address) : Prop :=
  (∃ text ∈ settings.bypassDomains, geo.isBypassAddress text ∧
      geo.range (.bypassed text) address) ∨
    settings.iranDirect ∧ geo.range .geoipIr address ∨ settings.sanctionedOnly

variable {geo adBlock settings apiHosts} {platform : Platform} {host : Option Text}
  {connection : Connection Address}

theorem route_proxy_iff {rules : List Rule}
    (direct : ∀ rule ∈ rules, rule.matches geo connection → rule.outboundTag = .direct) :
    route geo rules connection = .proxy ↔ ¬ ∃ rule ∈ rules, rule.matches geo connection := by
  unfold route
  cases found : rules.find? fun rule => rule.matches geo connection with
  | none => simpa using List.find?_eq_none.mp found
  | some rule =>
    have matched := @List.find?_some _ _ _ _ found
    have member := List.mem_of_find?_eq_some found
    exact iff_of_false (by simp [direct rule member matched]) (not_not.mpr ⟨rule, member, matched⟩)

/-- Where no rule knows the name, those that match are for addresses, and lead past the server. -/
theorem otherRules_match (port : connection.port ≠ 53)
    (unread : routesAnythingDirect settings → connection.name = none)
    (clean : ∀ name ∈ connection.name, geo.site .adBlockDomains name = false) :
    (∀ rule ∈ otherRules geo adBlock settings, rule.matches geo connection →
      rule.outboundTag = .direct) ∧
    ((∃ rule ∈ otherRules geo adBlock settings, rule.matches geo connection) ↔
      SentDirect geo settings connection.address) := by
  simp only [otherRules, List.flatten_cons, List.flatten_nil, List.mem_append,
    List.mem_ite_nil_right, List.mem_cons, List.not_mem_nil, or_false, or_and_right, exists_or,
    exists_eq_left, and_assoc, exists_and_left, SentDirect]
  cases read : connection.name with
  | none =>
    constructor
    · rintro rule (⟨-, rfl⟩ | ⟨-, rfl⟩ | ⟨-, rfl⟩ | ⟨-, rfl | rfl⟩ | ⟨-, rfl | rfl | rfl⟩) matched
      all_goals simp_all [Rule.matches]
    · simp [Rule.matches, read, port.symm]
      grind
  | some name =>
    have unsplit : routesAnythingDirect settings = false := by
      simpa [read] using unread
    simp only [routesAnythingDirect, Bool.or_eq_false_iff, Bool.not_eq_false',
      List.isEmpty_iff] at unsplit
    simp [unsplit, Rule.matches, read, clean name read]

/-- The rules for API names, name servers and the local network match no such connection. -/
theorem mem_config_rules {rule : Rule} (matched : rule.matches geo connection)
    (toApi : ToApi geo adBlock settings apiHosts platform host connection)
    (unread : routesAnythingDirect settings → connection.name = none) :
    rule ∈ (config geo adBlock settings apiHosts platform).rules ↔
      rule ∈ otherRules geo adBlock settings := by
  have own : rule ∈ (renderXrayClientConfig geo adBlock settings apiHosts).rules ↔
      rule ∈ otherRules geo adBlock settings := by
    refine List.mem_append.trans (or_iff_right fun api => ?_)
    simp only [apiRules, List.mem_ite_nil_right, List.mem_singleton, Bool.and_eq_true] at api
    simp [api.2, Rule.matches, unread api.1.1] at matched
  obtain ⟨inbound, port, -, -, isPublic⟩ := toApi
  cases platform with
  | mobile => exact own
  | desktop localNetworkDirect =>
    simp only [config, tunConfig, List.cons_append, List.mem_cons, List.mem_append,
      List.mem_ite_nil_right, List.not_mem_nil, or_false] at inbound ⊢
    rw [← own]
    refine ⟨?_, fun member => Or.inr (Or.inr (Or.inr member))⟩
    rintro (rfl | rfl | ⟨-, rfl⟩ | other)
    · simp [Rule.matches, port.symm] at matched
    · simp [Rule.matches, inbound] at matched
    · simp [Rule.matches, isPublic] at matched
    · exact other

theorem routesAnythingDirect_of_sentDirect {address : Address}
    (sent : SentDirect geo settings address) : routesAnythingDirect settings := by
  rcases sent with ⟨text, member, -⟩ | ⟨on, -⟩ | on
  · simp [routesAnythingDirect, List.ne_nil_of_mem member]
  · simp [routesAnythingDirect, on]
  · simp [routesAnythingDirect, on]

theorem api_through_server (toApi : ToApi geo adBlock settings apiHosts platform host connection) :
    route geo (config geo adBlock settings apiHosts platform).rules connection = .proxy ↔
      platform = .mobile ∧ host.isSome ∨ ¬ SentDirect geo settings connection.address := by
  have ⟨_, port, known, sniffed, _⟩ := toApi
  by_cases named : (platform = .mobile ∧ host.isSome) ∧ routesAnythingDirect settings
  · obtain ⟨⟨rfl, named⟩, direct⟩ := named
    obtain ⟨name, rfl⟩ := Option.isSome_iff_exists.mp named
    have listed := (known name rfl).1
    have read : connection.name = some name :=
      sniffed.trans (if_pos (by simp [config, renderXrayClientConfig, sniffingEnabledFor, direct]))
    have first : apiRules settings apiHosts =
        [{ outboundTag := .proxy, domain := some (apiHosts.map .full) }] := by
      simp [apiRules, direct, List.ne_nil_of_mem listed]
    simp [route, config, renderXrayClientConfig, first, Rule.matches, read, geo.full, listed]
  have clean : ∀ name ∈ connection.name, geo.site .adBlockDomains name = false := by
    intro name read
    rw [sniffed] at read
    split at read
    · exact (known name read).2
    · cases read
  have unread : routesAnythingDirect settings → connection.name = none := by
    intro direct
    rw [sniffed]
    cases platform <;> simp_all [config, tunConfig]
  obtain ⟨direct, sent⟩ := @otherRules_match _ geo adBlock _ _ port unread clean
  rw [route_proxy_iff fun rule member matched =>
      direct rule ((mem_config_rules matched toApi unread).mp member) matched,
    exists_congr fun rule => and_congr_left fun matched => mem_config_rules matched toApi unread,
    sent]
  exact ⟨Or.inr, fun either sent => either.elim
    (fun own => named ⟨own, routesAnythingDirect_of_sentDirect sent⟩) fun none => none sent⟩

def noLists : Geo Unit where
  site domain name :=
    match domain with
    | .full host => name == host
    | _ => false
  full _ _ := rfl
  range _ _ := false
  isBypassAddress _ := false

def sanctionedOnly : AdvancedSettings := ⟨true, false, [], .never⟩

theorem api_through_server_by_name :
    route noLists (config noLists false sanctionedOnly ["api".toList] .mobile).rules
      ⟨.socksIn, 443, some "api".toList, ()⟩ = .proxy :=
  (@api_through_server _ _ _ _ _ _ (some "api".toList) _
    ⟨rfl, by decide, by simp [noLists], rfl, rfl⟩).mpr (by simp)

/-- A desktop's configuration reads no names, and an API known by its address has none. -/
theorem api_sent_directly :
    let config := config noLists false sanctionedOnly ["api".toList]
    let toApi := ToApi noLists false sanctionedOnly ["api".toList]
    toApi (.desktop false) (some "api".toList) ⟨.tunIn, 443, none, ()⟩ ∧
      route noLists (config (.desktop false)).rules ⟨.tunIn, 443, none, ()⟩ = .direct ∧
      toApi .mobile none ⟨.socksIn, 443, none, ()⟩ ∧
      route noLists (config .mobile).rules ⟨.socksIn, 443, none, ()⟩ = .direct :=
  ⟨⟨rfl, by decide, by simp [noLists], rfl, rfl⟩, rfl, ⟨rfl, by decide, by simp, rfl, rfl⟩, rfl⟩

end Nebula.Mobile.ApiRouting
