import VisualNovel.Http.Url
import VisualNovel.Json.Bytes
import VisualNovel.Json.Printer
import VisualNovel.Text.Blank
import VisualNovel.Text.Pieces

/-!
# Requests and responses

Requests and responses have a body of bytes, and say of what type it is.  A request brings
JSON if it says so and if the bytes are JSON.
-/

namespace VisualNovel.Http

/-- A request. -/
structure Request where
  method : String
  url : Url
  contentType : Option String
  body : ByteArray

/-- A response. -/
structure Response where
  status : Nat
  contentType : Option String := none
  body : ByteArray := ByteArray.empty
  /-- Where to go instead. -/
  location : Option String := none

/-- Why a request brings no JSON. -/
inductive BodyFault where
  /-- There is no body, it is of another type, or it is not JSON. -/
  | noJson
  /-- The body cannot be taken in at all. -/
  | unreadable
  deriving DecidableEq, Repr

/-! ## Types of bodies -/

/-- The type of JSON. -/
def jsonType : String := "application/json"

/-- Is this the type of JSON?  Parameters after a semicolon do not matter. -/
def isJsonType (contentType : String) : Bool :=
  let media := contentType.toList.takeWhile (· ≠ ';')
  let type := String.ofList ((Text.trimmed Text.isBlank media).map Char.toLower)
  match Text.pieces '/' type with
  | ["application", subtype] => subtype = "json" || subtype.endsWith "+json"
  | _ => false

namespace Request

/-- A request that brings a value. -/
def post (url : Url) (value : Json) : Request :=
  { method := "POST", url, contentType := some jsonType
    body := (value.toText .wire).toUTF8 }

/-- The value that a request brings; null is none. -/
def json [Json.Room] (request : Request) : Except BodyFault Json :=
  if request.body.isEmpty || !request.contentType.any isJsonType then .error .noJson
  else
    match Json.parseMessage .body request.body with
    | .ok .null => .error .noJson
    | .ok value => .ok value
    | .error (.text .malformed) => .error .noJson
    | .error _ => .error .unreadable

end Request

namespace Response

/-- A response with a value. -/
def ofJson (status : Nat) (value : Json) : Response :=
  { status, contentType := some jsonType, body := (value.toText .wire).toUTF8 }

/-- A response that tells a detail of what went wrong. -/
def ofDetail (status : Nat) (detail : Json) : Response :=
  ofJson status (.obj [("detail", detail)])

/-- A response with a text. -/
def ofText (status : Nat) (text : String) : Response :=
  { status, contentType := some "text/plain; charset=utf-8", body := text.toUTF8 }

/-- Does the response say that all went well? -/
def isSuccess (response : Response) : Bool :=
  200 ≤ response.status && response.status < 300

end Response

end VisualNovel.Http
