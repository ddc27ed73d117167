import MagicShare.Base.Dict
import MagicShare.Nearby.Isolates

/-! Discovery in the local network (`multicast_discovery.dart`, `receive_controller.dart`).

A device announces itself to a multicast group. Whoever listens there lists it, and
answers it by registering with its server, or, where that fails, by a datagram that is no
announcement. Datagrams get lost, and come back to their sender. A listener goes on with
what it was bound with, and a datagram says what it said when it was composed, whatever
the sync state is by then. -/
namespace MagicShare.Nearby

/-! ### What is said -/

def protocolVersion : String := "2.1"

def fallbackProtocolVersion : String := "1.0"

/-- Of the security context. -/
def SyncState.certificateHash (syncState : SyncState) : String := syncState.securityContext.certificateHash

structure RegisterDto where
  «alias» : String
  version : Option String
  deviceModel : Option String
  deviceType : Option DeviceType
  fingerprint : String
  port : Option Nat
  protocol : Option ProtocolType
  download : Option Bool
  deriving DecidableEq

structure MulticastDto extends RegisterDto where
  announcement : Option Bool
  announce : Option Bool
  deriving DecidableEq

def RegisterDto.toDevice (dto : RegisterDto) (ip : String) (ownPort : Nat) (ownHttps : Bool) (method : DiscoveryMethod) :
    Device where
  version := dto.version.getD fallbackProtocolVersion
  «alias» := dto.alias
  deviceModel := dto.deviceModel
  deviceType := dto.deviceType.getD .desktop
  download := dto.download.getD false
  endpoints := [.http {
    ip := ip
    port := dto.port.getD ownPort
    https := match dto.protocol with
      | some protocol => protocol = .https
      | none => ownHttps
    certHash := dto.fingerprint }]
  discoveryMethods := [method]

def MulticastDto.toDevice (dto : MulticastDto) (ip : String) (ownPort : Nat) (ownHttps : Bool) : Device :=
  dto.toRegisterDto.toDevice ip ownPort ownHttps .multicast

/-- `_getRegisterDto`. -/
def SyncState.getRegisterDto (syncState : SyncState) : RegisterDto where
  «alias» := syncState.alias
  version := some protocolVersion
  deviceModel := syncState.deviceInfo.deviceModel
  deviceType := some syncState.deviceInfo.deviceType
  fingerprint := syncState.certificateHash
  port := some syncState.port
  protocol := some syncState.protocol
  download := some syncState.download

/-- `_getMulticastDto`. -/
def SyncState.getMulticastDto (syncState : SyncState) (announcement : Bool) : MulticastDto where
  toRegisterDto := syncState.getRegisterDto
  announcement := some announcement
  announce := some announcement

/-- Whether a datagram asks for an answer. -/
def MulticastDto.asks (dto : MulticastDto) : Bool := dto.announcement = some true || dto.announce = some true

/-- The device that the DTOs describe. -/
def SyncState.device (syncState : SyncState) (ip : String) (method : DiscoveryMethod) : Device where
  version := protocolVersion
  «alias» := syncState.alias
  deviceModel := syncState.deviceInfo.deviceModel
  deviceType := syncState.deviceInfo.deviceType
  download := syncState.download
  endpoints := [.http ⟨ip, syncState.port, syncState.protocol = .https, syncState.certificateHash⟩]
  discoveryMethods := [method]

/-- **The DTO says all of the device**, so nothing of the receiver goes into it. -/
theorem toDevice_getRegisterDto (syncState : SyncState) (ip : String) (ownPort : Nat) (ownHttps : Bool)
    (method : DiscoveryMethod) :
    syncState.getRegisterDto.toDevice ip ownPort ownHttps method = syncState.device ip method := rfl

/-! ### The network -/

/-- The routes of a running server, with what they were installed with. -/
structure HttpServer where
  port : Nat
  https : Bool
  fingerprint : String
  deriving DecidableEq

structure Node where
  syncState : SyncState
  /-- What the listener is being bound with. -/
  binding : Option SyncState := none
  /-- What it was bound with, while it listens. -/
  listener : Option SyncState := none
  server : Option HttpServer := none
  /-- The listed devices, by IP. -/
  devices : List (String × Device) := []

/-- A datagram to be sent, to what was the multicast group when the sockets were asked for. -/
structure Draft (ι : Type) where
  sender : ι
  announcement : Bool
  multicastGroup : String
  port : Nat
  /-- What it says, once it is composed. -/
  dto : Option MulticastDto := none

/-- A datagram on its way to one receiver; `none` where it is malformed. -/
structure Packet (ι : Type) where
  ip : String
  receiver : ι
  multicastGroup : String
  port : Nat
  datagram : Option MulticastDto

/-- An answer to an announcement. -/
structure Answer (ι : Type) where
  sender : ι
  peer : Device
  dto : RegisterDto
  /-- The status of the response, once the peer's server has handled the request. -/
  status : Option Nat := none

structure LocalNetwork (ι : Type) where
  node : ι → Node
  drafts : List (Draft ι) := []
  transit : List (Packet ι) := []
  /-- What the listeners have found, on its way to the list. -/
  found : List (ι × Device) := []
  answers : List (Answer ι) := []

inductive DiscoveryEvent (ι : Type) where
  /-- `UpdateSyncStateAction`. -/
  | updateSyncState (a : ι) (syncState : SyncState)
  /-- The listener reads what to bind with. -/
  | startListener (a : ι)
  | bind (a : ι)
  /-- For a restart. -/
  | close (a : ι)
  | startServer (a : ι) (server : HttpServer)
  | stopServer (a : ι)
  /-- `ClearFoundDevicesAction`. -/
  | clear (a : ι)
  /-- Devices that did not answer the probes are removed. -/
  | prune (a : ι) (ips : List String)
  | sendAnnouncement (a : ι)
  | compose (k : Nat)
  /-- A datagram of the sender goes out; `receivers` are those the network carries it to. -/
  | send (k : Nat) (a : ι) (announcement : Bool) (receivers : List ι)
  | receive (k : Nat)
  | lose (k : Nat)
  /-- `RegisterDeviceAction` for what a listener has found. -/
  | list (k : Nat)
  /-- The request of an answer reaches a server. -/
  | register (k : Nat) (b : ι)
  | answered (k : Nat)
  /-- The request has failed, and the answer is to go out over UDP. -/
  | fallback (k : Nat)

/-- `RegisterDeviceAction`. -/
def Node.registerDevice (n : Node) (device : Device) : Node :=
  match device.firstHttpEndpoint with
  | none => n
  | some endpoint => if endpoint.ip = "" then n else {n with devices := Dict.put n.devices endpoint.ip device}

/-- `_registerHandler`: the status of the response, and the device it registers. -/
def HttpServer.registerHandler (server : HttpServer) (ip : String) (dto : RegisterDto) : Nat × Option Device :=
  if dto.fingerprint = server.fingerprint then (412, none)
  else (200, some (dto.toDevice ip server.port server.https (.http ip)))

/-- The server is the one an endpoint names. -/
def HttpServer.at (server : HttpServer) (endpoint : HttpEndpoint) : Bool :=
  server.port = endpoint.port && server.https = endpoint.https

/-- The listener: the device it has found, and whether to answer. -/
def SyncState.onDatagram (bound : SyncState) (ip : String) : Option MulticastDto → Option (Device × Bool)
  | none => none
  | some dto =>
    if dto.fingerprint = bound.certificateHash then none
    else some (dto.toDevice ip bound.port (bound.protocol = .https), dto.asks && bound.serverRunning)

namespace LocalNetwork
variable {ι : Type} [DecidableEq ι]

def setNode (s : LocalNetwork ι) (a : ι) (n : Node) : LocalNetwork ι := {s with node := Function.update s.node a n}

/-- The device registers what it was told. -/
def registerDevice (s : LocalNetwork ι) (a : ι) (device : Device) : LocalNetwork ι :=
  s.setNode a ((s.node a).registerDevice device)

/-- A server has handled the request of an answer. -/
def setStatus (s : LocalNetwork ι) (k : Nat) (answer : Answer ι) (status : Nat) : LocalNetwork ι :=
  {s with answers := s.answers.set k {answer with status := some status}}

/-- A datagram is to be sent to the multicast group of the sync state. -/
def draft (s : LocalNetwork ι) (a : ι) (announcement : Bool) : LocalNetwork ι :=
  {s with drafts := s.drafts ++
    [⟨a, announcement, (s.node a).syncState.multicastGroup, (s.node a).syncState.port, none⟩]}

/-- A datagram says what the sync state is now. -/
def compose (s : LocalNetwork ι) (k : Nat) (draft : Draft ι) : LocalNetwork ι :=
  let dto := (s.node draft.sender).syncState.getMulticastDto draft.announcement
  {s with drafts := s.drafts.set k {draft with dto := some dto}}

/-- A datagram goes out to the multicast group. -/
def send (s : LocalNetwork ι) (ip : ι → String) (draft : Draft ι) (dto : MulticastDto) (receivers : List ι) :
    LocalNetwork ι :=
  {s with transit := s.transit ++ receivers.map fun b =>
    ⟨ip draft.sender, b, draft.multicastGroup, draft.port, some dto⟩}

/-- A packet reaches its receiver; nobody hears it where the listener is bound elsewhere. -/
def onPacket (s : LocalNetwork ι) (packet : Packet ι) : LocalNetwork ι :=
  match (s.node packet.receiver).listener with
  | none => s
  | some bound =>
    if bound.multicastGroup = packet.multicastGroup ∧ bound.port = packet.port then
      match bound.onDatagram packet.ip packet.datagram with
      | none => s
      | some (peer, answers) =>
        {s with
          found := s.found ++ [(packet.receiver, peer)]
          answers := if answers then
              s.answers ++ [⟨packet.receiver, peer, (s.node packet.receiver).syncState.getRegisterDto, none⟩]
            else s.answers}
    else s

def step (ip : ι → String) (s : LocalNetwork ι) : DiscoveryEvent ι → Option (LocalNetwork ι)
  | .updateSyncState a syncState => some (s.setNode a {s.node a with syncState})
  | .startListener a =>
    if (s.node a).listener = none ∧ (s.node a).binding = none then
      some (s.setNode a {s.node a with binding := some (s.node a).syncState})
    else none
  | .bind a =>
    (s.node a).binding.map fun bound => s.setNode a {s.node a with binding := none, listener := some bound}
  | .close a => some (s.setNode a {s.node a with listener := none})
  | .startServer a server => some (s.setNode a {s.node a with server := some server})
  | .stopServer a => some (s.setNode a {s.node a with server := none})
  | .clear a => some (s.setNode a {s.node a with devices := []})
  | .prune a ips =>
    some (s.setNode a {s.node a with devices := (s.node a).devices.filter fun entry => entry.1 ∉ ips})
  | .sendAnnouncement a => some (s.draft a true)
  | .compose k =>
    match s.drafts[k]? with
    | some draft => if draft.dto = none then some (s.compose k draft) else none
    | none => none
  | .send k a announcement receivers =>
    match s.drafts[k]? with
    | some draft =>
      if draft.sender = a ∧ draft.announcement = announcement then
        draft.dto.map fun dto => {s with drafts := s.drafts.eraseIdx k}.send ip draft dto receivers
      else none
    | none => none
  | .receive k => s.transit[k]?.map fun packet => {s with transit := s.transit.eraseIdx k}.onPacket packet
  | .lose k => s.transit[k]?.map fun _ => {s with transit := s.transit.eraseIdx k}
  | .list k => s.found[k]?.map fun (a, device) => {s with found := s.found.eraseIdx k}.registerDevice a device
  | .register k b =>
    match s.answers[k]?, (s.node b).server with
    | some answer, some server =>
      match answer.peer.firstHttpEndpoint with
      | none => none
      | some endpoint =>
        if answer.status = none ∧ endpoint.ip = ip b ∧ server.at endpoint then
          let (status, device) := server.registerHandler (ip answer.sender) answer.dto
          match device with
          | none => some (s.setStatus k answer status)
          | some device => some ((s.setStatus k answer status).registerDevice b device)
        else none
    | _, _ => none
  | .answered k =>
    match s.answers[k]? with
    | some answer => if answer.status = some 200 then some {s with answers := s.answers.eraseIdx k} else none
    | none => none
  | .fallback k =>
    s.answers[k]?.map fun answer => {s with answers := s.answers.eraseIdx k}.draft answer.sender false

end LocalNetwork

/-- A network of devices, each with its IP. -/
def localNetwork {ι : Type} [DecidableEq ι] (ip : ι → String) (node : ι → Node) :
    Transition.System (LocalNetwork ι) (DiscoveryEvent ι) where
  init := {node}
  step := LocalNetwork.step ip

end MagicShare.Nearby
