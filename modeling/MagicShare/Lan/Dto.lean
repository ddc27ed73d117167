import MagicShare.Base.Json

/-! The registration DTOs of the LAN protocol (`dto_v2.rs`, `dto.rs`).

There are two families: the one of protocol v2, and the one the core works with. They
hold the same values under other names: a fingerprint is a token there, a download flag
says that there is a web interface, and the protocol is spelt in capitals. Each family
reads back what it writes. Where one reads what the other wrote, a registration is
refused (`RegisterDto.read_v2`), and a response loses its fingerprint and its flag
(`RegisterResponseDtoV2.read_core`). -/
namespace MagicShare.Lan
open Json

/-! ### Enumerations -/

inductive DeviceType where
  | mobile | desktop | web | headless | server
  deriving DecidableEq

/-- `SCREAMING_SNAKE_CASE`. -/
def DeviceType.name : DeviceType → String
  | .mobile => "MOBILE"
  | .desktop => "DESKTOP"
  | .web => "WEB"
  | .headless => "HEADLESS"
  | .server => "SERVER"

theorem DeviceType.name_injective : Function.Injective name := by
  intro a b h
  cases a <;> cases b <;> first | rfl | exact absurd h (by decide)

def DeviceType.codec : Codec DeviceType :=
  .variant [.mobile, .desktop, .web, .headless, .server] name (fun a => by cases a <;> decide) name_injective

inductive ProtocolType where
  | http | https
  deriving DecidableEq

/-- `SCREAMING_SNAKE_CASE`. -/
def ProtocolType.name : ProtocolType → String
  | .http => "HTTP"
  | .https => "HTTPS"

theorem ProtocolType.name_injective : Function.Injective name := by
  intro a b h
  cases a <;> cases b <;> first | rfl | exact absurd h (by decide)

def ProtocolType.codec : Codec ProtocolType :=
  .variant [.http, .https] name (fun a => by cases a <;> decide) name_injective

inductive ProtocolTypeV2 where
  | http | https
  deriving DecidableEq

/-- `lowercase`. -/
def ProtocolTypeV2.name : ProtocolTypeV2 → String
  | .http => "http"
  | .https => "https"

theorem ProtocolTypeV2.name_injective : Function.Injective name := by
  intro a b h
  cases a <;> cases b <;> first | rfl | exact absurd h (by decide)

def ProtocolTypeV2.codec : Codec ProtocolTypeV2 :=
  .variant [.http, .https] name (fun a => by cases a <;> decide) name_injective

def ProtocolType.toV2 : ProtocolType → ProtocolTypeV2
  | .http => .http
  | .https => .https

/-! ### The fields that all have -/

structure DeviceFields where
  deviceAlias : String
  version : String
  deviceModel : Option String
  deviceType : Option DeviceType
  deriving DecidableEq

namespace DeviceFields

def write (device : DeviceFields) : Entries :=
  Codec.string.field "alias" device.deviceAlias ++
    Codec.string.field "version" device.version ++
    Codec.string.optional "deviceModel" device.deviceModel ++
    DeviceType.codec.optional "deviceType" device.deviceType

def read (entries : Entries) : Option DeviceFields := do
  let deviceAlias ← Codec.string.readField "alias" entries
  let version ← Codec.string.readField "version" entries
  let deviceModel ← Codec.string.readOptional "deviceModel" entries
  let deviceType ← DeviceType.codec.readOptional "deviceType" entries
  return {deviceAlias, version, deviceModel, deviceType}

/-- Entries that say nothing about these fields. -/
def Silent (entries : Entries) : Prop :=
  named "alias" entries = [] ∧ named "version" entries = [] ∧ named "deviceModel" entries = [] ∧
    named "deviceType" entries = []

theorem read_write {device : DeviceFields} {rest : Entries} (h : Silent rest) :
    read (device.write ++ rest) = some device := by
  obtain ⟨halias, hversion, hmodel, htype⟩ := h
  have ralias : Codec.string.readField "alias" (device.write ++ rest) = some device.deviceAlias :=
    readField_of_written (by simp [write, halias])
  have rversion : Codec.string.readField "version" (device.write ++ rest) = some device.version :=
    readField_of_written (by simp [write, hversion])
  have rmodel : Codec.string.readOptional "deviceModel" (device.write ++ rest) = some device.deviceModel :=
    readOptional_of_written (by simp [write, hmodel])
  have rtype : DeviceType.codec.readOptional "deviceType" (device.write ++ rest) = some device.deviceType :=
    readOptional_of_written (by simp [write, htype])
  simp only [read, ralias, rversion, rmodel, rtype]
  rfl

/-- The other fields are found behind these. -/
theorem named_write {device : DeviceFields} {name : String} {rest : Entries}
    (h : name ∉ ["alias", "version", "deviceModel", "deviceType"]) :
    named name (device.write ++ rest) = named name rest := by
  simp only [List.mem_cons, List.not_mem_nil, or_false, not_or] at h
  obtain ⟨halias, hversion, hmodel, htype⟩ := h
  simp [write, Ne.symm halias, Ne.symm hversion, Ne.symm hmodel, Ne.symm htype]

end DeviceFields

/-! ### Registrations -/

structure RegisterDtoV2 extends DeviceFields where
  fingerprint : String
  port : UInt16
  protocol : ProtocolTypeV2
  download : Bool
  deriving DecidableEq

structure RegisterDto extends DeviceFields where
  token : String
  port : UInt16
  protocol : ProtocolType
  hasWebInterface : Bool
  deriving DecidableEq

namespace RegisterDtoV2

def write (dto : RegisterDtoV2) : Entries :=
  dto.toDeviceFields.write ++
    (Codec.string.field "fingerprint" dto.fingerprint ++
      Codec.u16.field "port" dto.port ++
      ProtocolTypeV2.codec.field "protocol" dto.protocol ++
      Codec.bool.field "download" dto.download)

def read (entries : Entries) : Option RegisterDtoV2 := do
  let device ← DeviceFields.read entries
  let fingerprint ← Codec.string.readField "fingerprint" entries
  let port ← Codec.u16.readField "port" entries
  let protocol ← ProtocolTypeV2.codec.readField "protocol" entries
  let download ← Codec.bool.readDefault "download" false entries
  return {device with fingerprint, port, protocol, download}

theorem read_write (dto : RegisterDtoV2) : read dto.write = some dto := by
  have hdevice : DeviceFields.read dto.write = some dto.toDeviceFields :=
    DeviceFields.read_write (by simp [DeviceFields.Silent])
  have hfingerprint : Codec.string.readField "fingerprint" dto.write = some dto.fingerprint :=
    readField_of_written (by rw [write, DeviceFields.named_write (by decide)]; simp)
  have hport : Codec.u16.readField "port" dto.write = some dto.port :=
    readField_of_written (by rw [write, DeviceFields.named_write (by decide)]; simp)
  have hprotocol : ProtocolTypeV2.codec.readField "protocol" dto.write = some dto.protocol :=
    readField_of_written (by rw [write, DeviceFields.named_write (by decide)]; simp)
  have hdownload : Codec.bool.readDefault "download" false dto.write = some dto.download :=
    readDefault_of_written (by rw [write, DeviceFields.named_write (by decide)]; simp)
  simp only [read, hdevice, hfingerprint, hport, hprotocol, hdownload]
  rfl

end RegisterDtoV2

namespace RegisterDto

def write (dto : RegisterDto) : Entries :=
  dto.toDeviceFields.write ++
    (Codec.string.field "token" dto.token ++
      Codec.u16.field "port" dto.port ++
      ProtocolType.codec.field "protocol" dto.protocol ++
      Codec.bool.unlessDefault "hasWebInterface" false dto.hasWebInterface)

def read (entries : Entries) : Option RegisterDto := do
  let device ← DeviceFields.read entries
  let token ← Codec.string.readField "token" entries
  let port ← Codec.u16.readField "port" entries
  let protocol ← ProtocolType.codec.readField "protocol" entries
  let hasWebInterface ← Codec.bool.readDefault "hasWebInterface" false entries
  return {device with token, port, protocol, hasWebInterface}

/-- The same values under the names of v2. -/
def toV2 (dto : RegisterDto) : RegisterDtoV2 :=
  {dto.toDeviceFields with
    fingerprint := dto.token
    port := dto.port
    protocol := dto.protocol.toV2
    download := dto.hasWebInterface}

theorem read_write (dto : RegisterDto) : read dto.write = some dto := by
  have hdevice : DeviceFields.read dto.write = some dto.toDeviceFields :=
    DeviceFields.read_write (by simp [DeviceFields.Silent])
  have htoken : Codec.string.readField "token" dto.write = some dto.token :=
    readField_of_written (by rw [write, DeviceFields.named_write (by decide)]; simp)
  have hport : Codec.u16.readField "port" dto.write = some dto.port :=
    readField_of_written (by rw [write, DeviceFields.named_write (by decide)]; simp)
  have hprotocol : ProtocolType.codec.readField "protocol" dto.write = some dto.protocol :=
    readField_of_written (by rw [write, DeviceFields.named_write (by decide)]; simp)
  have hweb : Codec.bool.readDefault "hasWebInterface" false dto.write = some dto.hasWebInterface :=
    readDefault_of_unlessDefault (by rw [write, DeviceFields.named_write (by decide)]; simp)
  simp only [read, hdevice, htoken, hport, hprotocol, hweb]
  rfl

/-- A registration of v2 has no token. -/
theorem read_v2 (dto : RegisterDtoV2) : read dto.write = none := by
  have htoken : Codec.string.readField "token" dto.write = none :=
    readField_of_missing (by rw [RegisterDtoV2.write, DeviceFields.named_write (by decide)]; simp)
  cases hdevice : DeviceFields.read dto.write with
  | none => simp only [read, hdevice]; rfl
  | some device => simp only [read, hdevice, htoken]; rfl

end RegisterDto

/-! ### Responses -/

structure RegisterResponseDtoV2 extends DeviceFields where
  fingerprint : String
  download : Bool
  deriving DecidableEq

structure RegisterResponseDto extends DeviceFields where
  token : String
  hasWebInterface : Bool
  deriving DecidableEq

def RegisterResponseDto.write (dto : RegisterResponseDto) : Entries :=
  dto.toDeviceFields.write ++
    (Codec.string.field "token" dto.token ++
      Codec.bool.unlessDefault "hasWebInterface" false dto.hasWebInterface)

namespace RegisterResponseDtoV2

def write (dto : RegisterResponseDtoV2) : Entries :=
  dto.toDeviceFields.write ++
    (Codec.string.field "fingerprint" dto.fingerprint ++
      Codec.bool.field "download" dto.download)

def read (entries : Entries) : Option RegisterResponseDtoV2 := do
  let device ← DeviceFields.read entries
  let fingerprint ← Codec.string.readDefault "fingerprint" "" entries
  let download ← Codec.bool.readDefault "download" false entries
  return {device with fingerprint, download}

theorem read_write (dto : RegisterResponseDtoV2) : read dto.write = some dto := by
  have hdevice : DeviceFields.read dto.write = some dto.toDeviceFields :=
    DeviceFields.read_write (by simp [DeviceFields.Silent])
  have hfingerprint : Codec.string.readDefault "fingerprint" "" dto.write = some dto.fingerprint :=
    readDefault_of_written (by rw [write, DeviceFields.named_write (by decide)]; simp)
  have hdownload : Codec.bool.readDefault "download" false dto.write = some dto.download :=
    readDefault_of_written (by rw [write, DeviceFields.named_write (by decide)]; simp)
  simp only [read, hdevice, hfingerprint, hdownload]
  rfl

/-- A response of the core has neither a fingerprint nor a download flag. -/
theorem read_core (dto : RegisterResponseDto) :
    read dto.write = some {dto.toDeviceFields with fingerprint := "", download := false} := by
  have hdevice : DeviceFields.read dto.write = some dto.toDeviceFields :=
    DeviceFields.read_write (by simp [DeviceFields.Silent])
  have hfingerprint : Codec.string.readDefault "fingerprint" "" dto.write = some "" :=
    readDefault_of_missing (by rw [RegisterResponseDto.write, DeviceFields.named_write (by decide)]; simp)
  have hdownload : Codec.bool.readDefault "download" false dto.write = some false :=
    readDefault_of_missing (by rw [RegisterResponseDto.write, DeviceFields.named_write (by decide)]; simp)
  simp only [read, hdevice, hfingerprint, hdownload]
  rfl

end RegisterResponseDtoV2
end MagicShare.Lan
