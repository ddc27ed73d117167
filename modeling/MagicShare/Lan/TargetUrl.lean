import MagicShare.Base.Query
import MagicShare.Lan.Dto

/-! The URLs of the v2 client (`client/url.rs`, `client/v2.rs`).

`TargetUrl` leaves it to the caller to URL-encode the values where that is necessary. No
method of the client does, and neither do their callers: session and file ids, tokens
and the PIN that a user typed go into the URL as they are. A reader of the query gets
them back exactly when none of them contains a separator or an escape
(`target_url_params_iff`). -/
namespace MagicShare.Lan
open Query

inductive ApiVersion
  | v2
  | v3
  deriving DecidableEq

def ProtocolType.asStr : ProtocolType → String
  | http => "http"
  | https => "https"

structure TargetUrl where
  version : ApiVersion
  protocol : String
  host : String
  port : UInt16
  path : String
  params : List (String × String)
  deriving DecidableEq

namespace TargetUrl

/-- The host in brackets when it is an IPv6 address. -/
def hostText (host : String) : List Char :=
  if ':' ∈ host.toList then '[' :: host.toList ++ [']'] else host.toList

def versionText : ApiVersion → List Char
  | .v2 => "v2".toList
  | .v3 => "v3".toList

def base (url : TargetUrl) : List Char :=
  url.protocol.toList ++ "://".toList ++ hostText url.host ++ ':' :: Nat.toDigits 10 url.port.toNat ++
    "/api/localsend/".toList ++ versionText url.version ++ url.path.toList

end TargetUrl

/-- The requests of the v2 client, with what their callers pass. -/
inductive V2Request
  | register
  | prepareUpload (pin : Option String)
  | upload (sessionId fileId token : String)
  | cancel (sessionId : String)
  | info
  | prepareDownload (sessionId pin : Option String)
  | download (sessionId fileId : String)
  deriving DecidableEq

namespace V2Request

def path : V2Request → String
  | register => "/register"
  | prepareUpload _ => "/prepare-upload"
  | upload _ _ _ => "/upload"
  | cancel _ => "/cancel"
  | info => "/info"
  | prepareDownload _ _ => "/prepare-download"
  | download _ _ => "/download"

def params : V2Request → List (String × String)
  | register => []
  | prepareUpload none => []
  | prepareUpload (some pin) => [("pin", pin)]
  | upload sessionId fileId token => [("sessionId", sessionId), ("fileId", fileId), ("token", token)]
  | cancel sessionId => [("sessionId", sessionId)]
  | info => []
  | prepareDownload sessionId pin =>
    (sessionId.toList.map fun sessionId => ("sessionId", sessionId)) ++ (pin.toList.map fun pin => ("pin", pin))
  | download sessionId fileId => [("sessionId", sessionId), ("fileId", fileId)]

def url (request : V2Request) (protocol : ProtocolType) (ip : String) (port : UInt16) : TargetUrl where
  version := .v2
  protocol := protocol.asStr
  host := ip
  port := port
  path := request.path
  params := request.params

end V2Request

end MagicShare.Lan
