import Nebula.Python

/-!
# The port listed and the port handed out

`list_available_servers` lists a profile at the CDN's port when its transport crosses the request's
route. `_to_xray_response` hands a credential out at that port only if a CDN can carry it, and
`request_xray_client` asks for the route only where the server is behind the CDN.
-/

namespace Nebula.Cdn

open Json List Python

def withoutPort (entry : Text) : Text :=
  match entry.reverse.dropWhile (· ≠ ':') with
  | [] => entry
  | _ :: host => host.reverse

structure Relay where
  code : Text
  host : Text
  ports : List (Text × Nat)

structure Settings where
  cdnHost : Text
  frontHosts : Text := []
  cdnServers : Text := []
  relays : List Relay := []

structure Headers where
  host : Text := []
  forwardedHost : Text := []

def cdnTransports : List Text := ["websocket".toList, "grpc".toList, "xhttp".toList]

def frontTransports : List Text := ["xhttp".toList]

def cdnPort : Nat := 443

structure CdnRoute where
  host : Text
  transports : List Text
  front : Option Text

def CdnRoute.tunnel (route : CdnRoute) (transport : Option Text) : Option Text :=
  if route.front.any (· ≠ []) && transport.any frontTransports.contains then route.front
  else if transport.any route.transports.contains then some route.host
  else none

def least (names : List Text) : Option Text :=
  names.find? fun name => names.all fun other => !decide (other < name)

section

variable (unicode : Unicode) (settings : Settings) (headers : Headers)

def names (value : Text) : List Text :=
  (((value.splitOn ',').map strip).filter (· ≠ [])).map (lower unicode)

def cdnRouteFor : Option CdnRoute :=
  let cdns := names unicode settings.cdnHost
  let fronts := names unicode settings.frontHosts
  let overFront (name : Text) : CdnRoute :=
    (least cdns).elim ⟨name, frontTransports, none⟩ fun cdn => ⟨cdn, cdnTransports, some name⟩
  let routeOf (entry : Text) : Option CdnRoute :=
    let name := lower unicode (strip (withoutPort entry))
    if cdns.contains name then some ⟨name, cdnTransports, least fronts⟩
    else if fronts.contains name then some (overFront name)
    else none
  ((headers.host :: headers.forwardedHost.splitOn ',').findSome? routeOf).or
    (((least cdns).map fun cdn => ⟨cdn, cdnTransports, least fronts⟩).or
      ((least fronts).map fun front => ⟨front, frontTransports, none⟩))

structure AvailableProfileEntry where
  code : Text
  requiredPort : Option Nat
  transport : Option Text

def listedPort (profile : AvailableProfileEntry) : Option Nat :=
  if (cdnRouteFor unicode settings headers).any fun route => (route.tunnel profile.transport).isSome
  then some cdnPort else profile.requiredPort

structure RequestXrayClientResult where
  serverAddress : Text
  port : Nat
  transport : Text
  transportSecurity : Text := "tls".toList
  portHop : Option Text := none
  protocol : Text := "vless".toList
  encryption : Option Text := none

def RequestXrayClientResult.direct (result : RequestXrayClientResult) : Bool :=
  result.protocol ≠ "vless".toList || result.encryption.isSome ||
    result.transportSecurity == "reality".toList

structure XrayClientResponse where
  serverAddress : Text
  port : Nat
  portHop : Option Text

def toXrayResponse (result : RequestXrayClientResult) (route : Option CdnRoute) :
    XrayClientResponse :=
  match (if result.direct then none else route.bind (·.tunnel (some result.transport))).filter
    (· ≠ []) with
  | some host => ⟨host, cdnPort, none⟩
  | none => ⟨result.serverAddress, result.port, result.portHop⟩

variable (serverCode : Text) (result : RequestXrayClientResult) (profile : AvailableProfileEntry)

def Settings.behindCdn : Bool :=
  let codes := ((settings.cdnServers.splitOn ',').map strip).filter (· ≠ [])
  codes.isEmpty || codes.contains serverCode

def Settings.findRelay : Option Relay :=
  settings.relays.find? (·.code = serverCode)

/-- A profile and its `-adblock` sibling share their port. -/
def Relay.portFor (relay : Relay) (profileCode : Text) : Option Nat :=
  relay.ports.lookup (if "-adblock".toList.isSuffixOf profileCode
    then profileCode.take (profileCode.length - 8) else profileCode)

def Relay.listed (relay : Relay) (profile : AvailableProfileEntry) :
    Option AvailableProfileEntry :=
  (relay.portFor profile.code).map fun port =>
    { profile with requiredPort := some port, transport := none }

/-- What is handed out for a credential; none for a profile not offered through the relay. -/
def requestXrayClient (serverCode profileCode : Text) (result : RequestXrayClientResult) :
    Option XrayClientResponse :=
  match settings.findRelay serverCode with
  | some relay => (relay.portFor profileCode).map fun port => ⟨relay.host, port, none⟩
  | none => some (toXrayResponse result
    (if settings.behindCdn serverCode then cdnRouteFor unicode settings headers else none))

/-- The profile is listed at the CDN's port if and only if it is handed out at it. -/
def PortsAgree (result : RequestXrayClientResult) : Prop :=
  ∀ response ∈ requestXrayClient unicode settings headers serverCode profile.code result,
    listedPort unicode settings headers profile = some cdnPort ↔ response.port = cdnPort
  deriving Decidable

theorem names_ne_nil {value name : Text} (named : name ∈ names unicode value) : name ≠ [] := by
  obtain ⟨given, member, rfl⟩ := mem_map.mp named
  exact lower_ne_nil unicode (by simpa using (mem_filter.mp member).2)

theorem least_ne_nil {value name : Text} (first : least (names unicode value) = some name) :
    name ≠ [] :=
  names_ne_nil unicode (mem_of_find?_eq_some first)

theorem route_named {route : CdnRoute} (found : cdnRouteFor unicode settings headers = some route) :
    route.host ≠ [] := by
  rcases Option.or_eq_some_iff.mp found with arrived | ⟨_, direct⟩
  · obtain ⟨entry, _, own⟩ := exists_of_findSome?_eq_some arrived
    cases first : least (names unicode settings.cdnHost)
    all_goals grind [names_ne_nil, least_ne_nil]
  rcases Option.or_eq_some_iff.mp direct with own | ⟨_, own⟩
  all_goals
    obtain ⟨name, first, rfl⟩ := Option.map_eq_some_iff.mp own
    exact least_ne_nil unicode first

theorem tunnel_named {route : CdnRoute} {transport : Option Text} {host : Text}
    (named : route.host ≠ []) (tunnel : route.tunnel transport = some host) : host ≠ [] := by
  unfold CdnRoute.tunnel at tunnel
  grind

/-- The request's route carries the transport. -/
def Crosses (transport : Text) : Prop :=
  ∃ route ∈ cdnRouteFor unicode settings headers, (route.tunnel (some transport)).isSome

theorem listedPort_iff {transport : Text} {port : Nat}
    (ownPort : profile.requiredPort = some port)
    (ownTransport : profile.transport = some transport) :
    listedPort unicode settings headers profile = some cdnPort ↔
      Crosses unicode settings headers transport ∨ port = cdnPort := by
  unfold listedPort Crosses
  rw [ownTransport, ownPort]
  cases found : cdnRouteFor unicode settings headers with
  | none => simp
  | some route => by_cases crosses : (route.tunnel (some transport)).isSome <;> simp [crosses]

theorem handedOut_iff :
    (toXrayResponse result (if settings.behindCdn serverCode
      then cdnRouteFor unicode settings headers else none)).port = cdnPort ↔
      (Crosses unicode settings headers result.transport ∧ settings.behindCdn serverCode ∧
        result.direct = false) ∨ result.port = cdnPort := by
  unfold toXrayResponse Crosses
  by_cases behind : settings.behindCdn serverCode
  swap
  · simp [behind]
  cases result.direct with
  | true => simp
  | false =>
    cases found : cdnRouteFor unicode settings headers with
    | none => simp [behind]
    | some route =>
      cases tunnel : route.tunnel (some result.transport) with
      | none => simp [behind, tunnel]
      | some host =>
        have named := tunnel_named (route_named unicode settings headers found) tunnel
        simp [behind, tunnel, Option.filter, named]

/-- For profiles of servers, whose code a relay may share, and of relays. -/
theorem listed_port_handed_out (serverCode : Text) (profile : AvailableProfileEntry)
    (result : RequestXrayClientResult) (ownPort : profile.requiredPort = some result.port)
    (ownTransport : profile.transport = some result.transport) :
    (settings.findRelay serverCode = none →
      (PortsAgree unicode settings headers serverCode profile result ↔
        (Crosses unicode settings headers result.transport → result.port ≠ cdnPort →
          settings.behindCdn serverCode ∧ result.direct = false))) ∧
    ∀ relay, settings.findRelay serverCode = some relay →
      (PortsAgree unicode settings headers serverCode profile result ↔
        ∀ port ∈ relay.portFor profile.code,
          Crosses unicode settings headers result.transport ∨ result.port = cdnPort ↔
            port = cdnPort) ∧
      ∀ listed, relay.listed profile = some listed →
        PortsAgree unicode settings headers serverCode listed result := by
  have listing := listedPort_iff unicode settings headers profile ownPort ownTransport
  refine ⟨fun server => ?_, fun relay own => ⟨?_, ?_⟩⟩
  · simp only [PortsAgree, requestXrayClient, server, Option.mem_some, forall_eq', listing,
      handedOut_iff]
    tauto
  · simp [PortsAgree, requestXrayClient, own, listing]
  · rintro listed offered response handed
    obtain ⟨port, forwarded, rfl⟩ := Option.map_eq_some_iff.mp offered
    rw [requestXrayClient, own] at handed
    obtain ⟨_, same, rfl⟩ := Option.map_eq_some_iff.mp handed
    have direct : ∀ route : CdnRoute, route.tunnel none = none := by simp [CdnRoute.tunnel]
    simp_all [listedPort]

def overWebsocket : RequestXrayClientResult :=
  { serverAddress := "berlin.example".toList, port := 8443, transport := "websocket".toList }

/-- A server that is not the CDN's: listed at 443, handed out for 8443. -/
theorem listed_port_not_handed_out :
    ¬ PortsAgree default { cdnHost := "cdn.example".toList, cdnServers := "tehran".toList } {}
      "berlin".toList ⟨"ws".toList, some 8443, some "websocket".toList⟩ overWebsocket := by
  decide +kernel

theorem listed_port_handed_out_behind :
    PortsAgree default { cdnHost := "cdn.example".toList } {} "berlin".toList
      ⟨"ws".toList, some 8443, some "websocket".toList⟩ overWebsocket :=
  ((listed_port_handed_out _ _ _ _ _ _ rfl rfl).1 rfl).mpr fun _ _ => by decide +kernel

end

end Nebula.Cdn
