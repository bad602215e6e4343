import VisualNovel.Callable.Basic
import VisualNovel.Http.Message

/-!
# The backend as a server

The callables are served at `/api/<name>` for the method `POST`, and `GET /api/health`
says that the server is there.  Some pages describe the callables.  If the store has a
directory of images when the server starts, they are served below `/media/`.

A path that is served with or without a slash at its end is redirected from the other
spelling.  A line break at the end of a path does not matter.
-/

namespace VisualNovel.Http

/-- A server; it knows from which directory it serves images, if it does. -/
structure Server where
  images : Option Path := none
  deriving DecidableEq, Repr

/-- What can be asked for. -/
inductive Route where
  | health
  | callable (callable : Callable)
  /-- The description of the callables, for programs. -/
  | description
  /-- A page that shows the description. -/
  | page
  | image (directory : Path) (path : String)
  deriving DecidableEq, Repr

/-- Is the method the one to ask with? -/
def Route.allows (method : String) : Route → Bool
  | health => method = "GET"
  | callable _ => method = "POST"
  | description | page | image _ _ => method = "GET" || method = "HEAD"

/-! ## Replies -/

mutual

/-- A reply as it is sent: fields whose names start with `_sa` are kept back. -/
def published : Json → Json
  | .arr items => .arr (publishedItems items)
  | .obj fields => .obj (publishedFields fields)
  | value => value

/-- The items of an array as they are sent. -/
def publishedItems : List Json → List Json
  | [] => []
  | item :: rest => published item :: publishedItems rest

/-- The fields of an object as they are sent. -/
def publishedFields : List (String × Json) → List (String × Json)
  | [] => []
  | (name, value) :: rest =>
    if name.startsWith "_sa" then publishedFields rest
    else (name, published value) :: publishedFields rest

end

/-- The status that tells of a kind of failure. -/
def statusOf : ErrorKind → Nat
  | .invalidArgument => 400
  | .notFound => 404
  | .unavailable => 503
  | .internal => 500

/-- The response to a request that the server could not serve. -/
def serverError : Response := .ofText 500 "Internal Server Error"

/-- The response to a call that is rejected. -/
def rejection (reason : Rejection) : Response :=
  .ofDetail (statusOf reason.kind)
    (.obj [("status", .str reason.kind.word), ("message", .str reason.message)])

/-- The response to a call.  Some replies cannot be sent, or there is no room to. -/
def respond [Json.Room] : Outcome → Response
  | .answered reply =>
    let reply := published reply
    if Json.Room.sends reply && reply.isSendable then .ofJson 200 reply else serverError
  | .rejected reason => rejection reason
  | .failed _ => serverError

/-! ## Images -/

/-- The types of files by the endings of their names. -/
def fileTypes : List (String × String) :=
  [("avif", "image/avif"), ("bmp", "image/bmp"), ("gif", "image/gif"),
   ("jpeg", "image/jpeg"), ("jpg", "image/jpeg"), ("json", jsonType), ("png", "image/png"),
   ("svg", "image/svg+xml"), ("webmanifest", "application/manifest+json"),
   ("webp", "image/webp")]

/-- The type of a file, by the ending of its name. -/
def fileType (name : String) : String :=
  let known : Option String := match (Text.pieces '.' name).reverse with
    | ending :: before =>
      if before.all String.isEmpty then none
      else (fileTypes.find? fun entry => entry.1 = ending.toLower).map Prod.snd
    | [] => none
  known.getD "text/plain; charset=utf-8"

/-- The names of a relative path, each `..` taking back the name before it if there is
one. -/
def relativeNames (path : String) : List String :=
  (Text.pieces '/' path).foldl step []
where
  /-- One more name. -/
  step (before : List String) (name : String) : List String :=
    if name = "" ∨ name = "." then before
    else if name = ".." ∧ !before.isEmpty ∧ before.getLast? ≠ some ".." then before.dropLast
    else before ++ [name]

/-- The image at a path below a directory.  The path may leave the directory if it comes
back, and does not begin with a backslash. -/
def image (files : FileTree) (directory : Path) (path : String) : Response :=
  let missing := Response.ofDetail 404 (.str "Not Found")
  let base := directory.fromRoot files.workingDirectory
  let names := relativeNames path
  let place := Path.plainNames (base ++ names)
  if !base.isPrefixOf place || names.head?.any (·.startsWith "\\") then missing
  else
    match files.readFile ⟨true, place⟩ with
    | .ok content =>
      { status := 200, contentType := some (fileType (names.getLastD "")), body := content }
    | .error _ => missing

namespace Server

variable [Json.Room]

/-- Start a server over the store at a directory. -/
def start (root : Path) : Store.Action Server := do
  Store.openAt root
  let media ← Store.media
  let served ← Store.ask fun files => files.isDirectory media
  return ⟨if served then some media else none⟩

/-- The text without the line break that it may end with. -/
def withoutBreak (text : String) : String :=
  if text.endsWith "\n" then (text.dropEnd 1).toString else text

/-- The pages about the callables. -/
def pages : List (String × Route) :=
  [("/openapi.json", .description), ("/docs", .page), ("/docs/oauth2-redirect", .page),
   ("/redoc", .page)]

/-- The path below a directory of images for which a path asks.  If there is a line break at
its end, the whole path is taken for it. -/
def imagePath? (path : String) : Option String :=
  if !path.startsWith "/media/" then none
  else
    let below := (path.drop 7).toString
    if !below.contains '\n' then some below
    else if !(withoutBreak below).contains '\n' then some (path.drop 1).toString
    else none

/-- What a path asks for. -/
def route? (server : Server) (path : String) : Option Route :=
  let line := withoutBreak path
  if line = "/api/health" then some .health
  else if line.startsWith "/api/" then
    (Callable.ofName? (line.drop 5).toString).map Route.callable
  else match pages.find? fun entry => entry.1 = line with
    | some (_, route) => some route
    | none => do
      let directory ← server.images
      let below ← imagePath? path
      return .image directory below

/-- The path with a slash more or less at its end. -/
def otherSpelling (path : String) : String :=
  if path.endsWith "/" then
    String.ofList ((path.toList.reverse.dropWhile (· = '/')).reverse)
  else path ++ "/"

/-- Does the character stand in the address of a redirection as it is? -/
def isLocationChar (c : Char) : Bool :=
  c.isAlphanum || "-_.~:/%#?=@[]!$&'()*+,;".toList.contains c

/-- The response that sends a client from an address to another path there. -/
def redirection (url : Url) (path : String) : Response :=
  let query := match url.query with
    | none | some "" => ""
    | some query => "?" ++ query
  let target := url.scheme ++ "://" ++ url.site ++ path ++ query
  { status := 307, location := some (Percent.encodeWith isLocationChar target) }

/-- Answer a request for something that is there. -/
def serve (request : Request) : Route → StateM Store Response
  | .health => return .ofJson 200 (.obj [("status", .str "ok")])
  | .description => return .ofJson 200 (.obj [])
  | .page => return { status := 200, contentType := some "text/html; charset=utf-8" }
  | .image directory path => return image (← get).files directory path
  | .callable callable =>
    match request.json with
    | .ok payload => return respond (← callable.serve payload)
    | .error .noJson => return rejection .malformedPayload
    | .error .unreadable =>
      return .ofDetail 400 (.str "There was an error parsing the body")

/-- Find out what is asked for, and answer. -/
def answer (server : Server) (request : Request) : StateM Store Response :=
  let path := request.url.served
  match server.route? path with
  | some route =>
    if route.allows request.method then serve request route
    else return .ofDetail 405 (.str "Method Not Allowed")
  | none =>
    let other := otherSpelling path
    if path ≠ "/" ∧ (server.route? other).isSome then
      return redirection request.url other
    else return .ofDetail 404 (.str "Not Found")

/-- Answer a request; the method `HEAD` asks for no body. -/
def handle (server : Server) (request : Request) : StateM Store Response := do
  let response ← server.answer request
  return if request.method = "HEAD" then { response with body := ByteArray.empty } else response

end Server

end VisualNovel.Http
