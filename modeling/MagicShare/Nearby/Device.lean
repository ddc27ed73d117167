import Mathlib.Data.List.Basic

/-! A device, as the discovery channels describe it (`device.dart`).

A device is reached by its endpoints: over HTTP in the local network, under a certificate
hash, or through a signaling server, under the token the server was told. The two are
values of different spaces, and only certificate hashes identify a device. -/
namespace MagicShare.Nearby

inductive DeviceType where
  | mobile | desktop | web | headless | server
  deriving DecidableEq, Repr

inductive DiscoveryMethod where
  | multicast
  | http (ip : String)
  | signaling (signalingServer : String)
  deriving DecidableEq, Repr

structure HttpEndpoint where
  ip : String
  port : Nat
  https : Bool
  certHash : String
  deriving DecidableEq, Repr

structure SignalingEndpoint where
  signalingId : String
  signalingServer : String
  serverToken : String
  deriving DecidableEq, Repr

inductive DeviceEndpoint where
  | http (endpoint : HttpEndpoint)
  | signaling (endpoint : SignalingEndpoint)
  deriving DecidableEq, Repr

def DeviceEndpoint.asHttp : DeviceEndpoint → Option HttpEndpoint
  | .http e => some e
  | .signaling _ => none

def DeviceEndpoint.asSignaling : DeviceEndpoint → Option SignalingEndpoint
  | .http _ => none
  | .signaling e => some e

/-- `{...a, ...b}`: a set keeps the order in which its elements came. -/
def spread {α : Type} [DecidableEq α] (a b : List α) : List α := a ++ b.filter (· ∉ a)

@[simp] theorem mem_spread {α : Type} [DecidableEq α] {a b : List α} {x : α} :
    x ∈ spread a b ↔ x ∈ a ∨ x ∈ b := by
  by_cases hx : x ∈ a <;> simp [spread, hx]

structure Device where
  version : String
  «alias» : String
  deviceModel : Option String
  deviceType : DeviceType
  download : Bool
  endpoints : List DeviceEndpoint
  discoveryMethods : List DiscoveryMethod
  deriving DecidableEq, Repr

namespace Device

def httpEndpoints (d : Device) : List HttpEndpoint := d.endpoints.filterMap DeviceEndpoint.asHttp

def signalingEndpoints (d : Device) : List SignalingEndpoint := d.endpoints.filterMap DeviceEndpoint.asSignaling

def firstHttpEndpoint (d : Device) : Option HttpEndpoint := d.httpEndpoints.head?

def firstSignalingEndpoint (d : Device) : Option SignalingEndpoint := d.signalingEndpoints.head?

def hasAnyEndpoint (d : Device) : Bool := !d.endpoints.isEmpty

def certHashes (d : Device) : List String := d.httpEndpoints.map HttpEndpoint.certHash

end Device
end MagicShare.Nearby
