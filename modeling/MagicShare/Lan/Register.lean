import MagicShare.Lan.Dto

/-! A registration over protocol v2 (`client/v2.rs`, `server/controller/v2.rs`).

The client writes the DTOs of v2 and reads them; the handler of the server reads and
writes those of the core. So no registration of the client is accepted, and a response of
the handler comes back without the server's fingerprint and flag
(`register_disagrees`). -/
namespace MagicShare.Lan
open Json

/-! ### The server -/

structure ClientInfo extends DeviceFields where
  token : String
  deriving DecidableEq

structure AppState where
  info : ClientInfo
  /-- There is a state for serving web pages. -/
  web : Bool

inductive AppError where
  | status (code : Nat) (text : String)
  | badRequest (message : String)

structure HttpResponse where
  status : Nat
  body : Entries

/-- `ErrorResponse`. -/
def errorResponse (message : String) : Entries := Codec.string.field "message" message

def AppError.toResponse : AppError → HttpResponse
  | .status code text => ⟨code, errorResponse ("Status code: " ++ text)⟩
  | .badRequest message => ⟨400, errorResponse message⟩

/-- `collect_to_json`. -/
def collectToJson {α : Type} (read : Entries → Option α) (body : Entries) : Except AppError α :=
  match read body with
  | some payload => .ok payload
  | none => .error (.badRequest "Invalid JSON body")

/-- What the handler answers with, whatever the payload is. -/
def AppState.registerResponse (state : AppState) : RegisterResponseDto :=
  {state.info.toDeviceFields with token := state.info.token, hasWebInterface := state.web}

/-- The `register` handler. -/
def AppState.register (state : AppState) (body : Entries) : Except AppError RegisterResponseDto := do
  let _ ← collectToJson RegisterDto.read body
  return state.registerResponse

/-- The route of the handler. -/
def AppState.handleRequest (state : AppState) (legacyEnabled : Bool) (body : Entries) : HttpResponse :=
  if legacyEnabled then
    match state.register body with
    | .ok response => ⟨200, response.write⟩
    | .error e => e.toResponse
  else (AppError.status 404 "404 Not Found").toResponse

/-! ### The client -/

inductive ClientError where
  | statusCode (status : Nat) (message : Option String)
  | reqwest

/-- `into_error`. -/
def HttpResponse.intoError (res : HttpResponse) : ClientError :=
  .statusCode res.status (Codec.string.readField "message" res.body)

/-- What the client makes of the answer to its registration. -/
def receiveRegister (res : HttpResponse) : Except ClientError RegisterResponseDtoV2 :=
  if res.status = 200 then
    match RegisterResponseDtoV2.read res.body with
    | some body => .ok body
    | none => .error .reqwest
  else .error res.intoError

/-! ### What both agree on -/

/-- The handler accepts the registration and has read its values. -/
def AcceptsRegistration (dto : RegisterDtoV2) : Prop :=
  ∃ payload, collectToJson RegisterDto.read dto.write = .ok payload ∧ payload.toV2 = dto

/-- The client accepts the handler's response and has its fingerprint and flag. -/
def ReturnsInfo (state : AppState) : Prop :=
  ∃ body, receiveRegister ⟨200, state.registerResponse.write⟩ = .ok body ∧
    body.fingerprint = state.info.token ∧ body.download = state.web

/-- The handler refuses the body of a registration. -/
theorem collectToJson_v2 (dto : RegisterDtoV2) :
    collectToJson RegisterDto.read dto.write = .error (.badRequest "Invalid JSON body") := by
  simp only [collectToJson, RegisterDto.read_v2]

theorem not_acceptsRegistration (dto : RegisterDtoV2) : ¬ AcceptsRegistration dto := by
  rintro ⟨payload, haccepted, -⟩
  rw [collectToJson_v2] at haccepted
  cases haccepted

/-- The client gets the server's fields, but no fingerprint and no flag. -/
theorem receiveRegister_core (state : AppState) :
    receiveRegister ⟨200, state.registerResponse.write⟩ =
      .ok {state.info.toDeviceFields with fingerprint := "", download := false} := by
  simp only [receiveRegister, RegisterResponseDtoV2.read_core, if_true]
  rfl

theorem returnsInfo_iff (state : AppState) : ReturnsInfo state ↔ state.info.token = "" ∧ state.web = false := by
  constructor
  · rintro ⟨body, hreceived, htoken, hweb⟩
    rw [receiveRegister_core] at hreceived
    obtain rfl := Except.ok.inj hreceived
    exact ⟨htoken.symm, hweb.symm⟩
  · rintro ⟨htoken, hweb⟩
    exact ⟨_, receiveRegister_core state, htoken.symm, hweb.symm⟩

/-- **The codecs of v2 disagree.** No registration is accepted by the handler, so every
one ends in an error at the client; and the response comes back with the server's
fingerprint and flag only where it has neither. -/
theorem register_disagrees (dto : RegisterDtoV2) (state : AppState) :
    ¬ AcceptsRegistration dto ∧
      receiveRegister (state.handleRequest true dto.write) = .error (.statusCode 400 (some "Invalid JSON body")) ∧
      (ReturnsInfo state ↔ state.info.token = "" ∧ state.web = false) := by
  refine ⟨not_acceptsRegistration dto, ?_, returnsInfo_iff state⟩
  have hrefused : state.register dto.write = .error (.badRequest "Invalid JSON body") := by
    rw [AppState.register, collectToJson_v2]
    rfl
  have hresponse : state.handleRequest true dto.write = ⟨400, errorResponse "Invalid JSON body"⟩ := by
    simp only [AppState.handleRequest, hrefused, if_true]
    rfl
  have hmessage : Codec.string.readField "message" (errorResponse "Invalid JSON body") = some "Invalid JSON body" :=
    readField_of_written (by simp [errorResponse])
  rw [hresponse]
  simp [receiveRegister, HttpResponse.intoError, hmessage]

namespace Discovery

def phone : RegisterDtoV2 where
  deviceAlias := "Nice Orange"
  version := "2.1"
  deviceModel := some "Samsung"
  deviceType := some .mobile
  fingerprint := "a fingerprint"
  port := 53317
  protocol := .https
  download := true

def server : AppState where
  info := {deviceAlias := "Secret Banana", version := "2.1", deviceModel := none, deviceType := none, token := "a token"}
  web := false

end Discovery

/-- The registration of a phone is refused, and the fingerprint of the server is lost. -/
theorem registration_is_refused : ¬ AcceptsRegistration Discovery.phone ∧ ¬ ReturnsInfo Discovery.server := by
  refine ⟨not_acceptsRegistration _, ?_⟩
  rw [returnsInfo_iff]
  decide

end MagicShare.Lan
