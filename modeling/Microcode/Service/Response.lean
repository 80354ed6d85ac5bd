import Microcode.Service.Body
import Microcode.Service.Disassembly
import Microcode.Service.Target

/-!
# Answering requests

Three resources are served: a greeting, a liveness check and the disassembler, beside
a place for static files that holds none. A resource that can be read also answers
requests for its head, and every resource tells which methods it allows.

Methods are compared in capitals, but only a method that is written `HEAD` leaves the
body out. A path with more slashes than needed is sent on to the one without them, and
so is the empty path. No resource speaks over a web socket.

Pages of one other origin may call the resources under `/api`.
-/

namespace Microcode.Service

/-- A request as it arrives. -/
structure Request where
  method : String
  target : String
  headers : Headers := []
  body : List UInt8 := []

/-- What a response carries. -/
inductive Content where
  /-- Nothing that is promised. -/
  | unspecified
  | text (text : String)
  /-- JSON; the head of a JSON resource carries none. -/
  | json (value : Option Json.Value)

/-- A response. -/
structure Response where
  status : Nat
  /-- The origin whose pages may read the response. -/
  allowOrigin : Option String
  /-- The allowed methods, where they are told. -/
  allow : Option (List String) := none
  content : Content := .unspecified

/-- What can be asked for. -/
inductive Resource where
  | greeting
  | liveness
  | disassembler
  | staticFile
  deriving DecidableEq

namespace Resource

/-- The methods that a resource allows, in alphabetical order. -/
def methods : Resource → List String
  | .greeting | .liveness | .staticFile => ["GET", "HEAD", "OPTIONS"]
  | .disassembler => ["OPTIONS", "POST"]

/-- Whether a text may name a static file: it does not begin with a slash, and no line
breaks follow its first character. -/
def isFileName : List Char → Bool
  | [] => false
  | first :: rest => first != '/' && !rest.contains '\n'

/-- The resource at a path. -/
def atPath? (path : List Char) : Option Resource :=
  if path = "/".toList then some .greeting
  else if path = "/api/ping".toList then some .liveness
  else if path = "/api/disassemble".toList then some .disassembler
  else
    let folder := "/static/".toList
    if folder.isPrefixOf path && isFileName (path.drop folder.length) then some .staticFile
    else none

end Resource

/-- Where a request leads. -/
inductive Destination where
  | found (resource : Resource)
  /-- Another path, with fewer slashes or with the one that is missing. -/
  | elsewhere
  | methodNotAllowed (methods : List String)
  /-- A resource that is asked for over a web socket. -/
  | webSocket
  | notFound
  deriving DecidableEq

/-- A path in which every run of slashes is one. -/
def mergeSlashes : List Char → List Char
  | [] => []
  | '/' :: rest => '/' :: (mergeSlashes rest).dropWhile (· == '/')
  | character :: rest => character :: mergeSlashes rest

/-- The destination of a request for a resource, which is the given one if the resource
allows the method and no web socket is asked for. -/
def Resource.admit (resource : Resource) (verb : List Char) (webSocket : Bool)
    (destination : Destination) : Destination :=
  if !(resource.methods.map String.toList).contains verb then .methodNotAllowed resource.methods
  else if webSocket then .webSocket
  else destination

/-- A path with exactly one slash at the front. -/
def rooted (path : List Char) : List Char := '/' :: path.dropWhile (· == '/')

/-- The destination of a method and a path. The empty path leads to the greeting, but
only for those who may have it. -/
def destination (verb : List Char) (webSocket : Bool) (path : List Char) : Destination :=
  if path.isEmpty then
    match Resource.greeting.admit verb webSocket .elsewhere with
    | .elsewhere => .elsewhere
    | _ => .notFound
  else
    let path := rooted path
    match Resource.atPath? path, Resource.atPath? (mergeSlashes path) with
    | some resource, _ => resource.admit verb webSocket (.found resource)
    | none, some resource => resource.admit verb webSocket .elsewhere
    | none, none => .notFound

/-- The origin whose pages may call the service. -/
def trustedOrigin : String := "http://localhost:3000"

/-- The origin that may read a response. Under `/api` it is the origin of the request if
that is the trusted one apart from case, and the trusted one if the request has none.
Percent escapes that are left in a path are resolved for this purpose. -/
def allowedOrigin (path : List Char) (origin : Option String) : Option String :=
  if "/api".toList.isPrefixOf (Target.unescape path) then
    match origin with
    | none => some trustedOrigin
    | some "" => some trustedOrigin
    | some origin =>
      if Text.folded origin.toList = Text.folded trustedOrigin.toList then some origin else none
  else none

/-- The text of the greeting. -/
def greeting : String := "RSP Disassembler Backend is running!"

/-- The status and body that answer a request for a listing. -/
def listingReply (body : Except Json.Container (Option Json.Value)) : Nat × Json.Value :=
  match body with
  | .error container =>
    let refusal := Refusal.unexpected (Json.ReadError.tooDeep container).message
    (refusal.status, refusal.body)
  | .ok value =>
    match listing value with
    | .ok text => (200, listingBody text [])
    | .error refusal => (refusal.status, refusal.body)

/-- What is reported while a request for a listing is answered. -/
def listingEvents (body : Except Json.Container (Option Json.Value)) : List Log.Event :=
  match body with
  | .error container => [.requestFailed (Json.ReadError.tooDeep container).message]
  | .ok value => events value

/-- Why a request cannot be sent. -/
inductive Unsendable where
  | target (cause : TargetError)
  /-- The value of a header field has a line break in it. -/
  | lineBreak
  deriving DecidableEq

/-- The wording of a request that cannot be sent. -/
def Unsendable.message : Unsendable → String
  | .target cause => cause.message
  | .lineBreak => "Header values must not contain newline characters."

/-- Whether the name of a host, which ends at a colon, is refused. -/
def isBadHost (host : List Char) : Bool :=
  let lowered := (Text.lowerCase (host.map .char)).map CodePoint.shown
  (Authority.checkLabels (Text.cut (· == ':') lowered).1).toOption.isNone

/-- A response that a resource gives. -/
def Resource.response (resource : Resource) (request : Request) (verb : List Char)
    (allowOrigin : Option String) : Response :=
  let head := request.method = "HEAD"
  if verb = "OPTIONS".toList then
    { status := 200, allowOrigin, allow := some resource.methods, content := .text "" }
  else
    match resource with
    | .staticFile => { status := 404, allowOrigin }
    | .greeting =>
      { status := 200, allowOrigin, content := .text (if head then "" else Service.greeting) }
    | .liveness =>
      let answer := Json.Value.record [("message", .ofString "pong")]
      { status := 200, allowOrigin, content := .json (if head then none else some answer) }
    | .disassembler =>
      let (status, body) := listingReply (Body.value request.headers request.body)
      { status, allowOrigin, content := .json (some body) }

namespace Request

/-- The method in capitals. -/
def verb (request : Request) : List Char := Text.capitals request.method.toList

/-- The target of a request that can be sent. -/
def resolved (request : Request) : Except Unsendable ResolvedTarget := do
  let target ← (Target.resolve request.target).mapError .target
  if request.headers.hasLineBreak then throw .lineBreak
  return target

/-- Whether a request asks for a web socket, by its scheme or by its header. -/
def asksForWebSocket (request : Request) (target : ResolvedTarget) : Bool :=
  target.scheme = "ws".toList || target.scheme = "wss".toList
    || request.headers.asksForWebSocket

/-- The host that a request is meant for. A host that the header names counts as it is. -/
def host (request : Request) (target : ResolvedTarget) : List Char :=
  ((request.headers.value? "Host").map String.toList).getD target.host

/-- The destination of a request. There is none if its host is refused. -/
def destination? (request : Request) (target : ResolvedTarget) : Option Destination :=
  if isBadHost (request.host target) then none
  else some (Service.destination request.verb (request.asksForWebSocket target) target.path)

/-- The answer to a request whose target has been resolved. -/
def answer (request : Request) (target : ResolvedTarget) : Response :=
  let allowOrigin := allowedOrigin (rooted target.path) (request.headers.value? "Origin")
  match request.destination? target with
  | none => { status := 400, allowOrigin }
  | some .notFound => { status := 404, allowOrigin }
  | some .elsewhere => { status := 308, allowOrigin }
  | some .webSocket => { status := 400, allowOrigin }
  | some (.methodNotAllowed methods) => { status := 405, allowOrigin, allow := some methods }
  | some (.found resource) => resource.response request request.verb allowOrigin

/-- The answer to a request. -/
def respond (request : Request) : Except Unsendable Response :=
  request.resolved.map request.answer

/-- What is reported while a request is answered. -/
def events (request : Request) : List Log.Event :=
  match request.resolved.map request.destination? with
  | .ok (some (.found resource)) =>
    if request.verb = "OPTIONS".toList then []
    else
      match resource with
      | .liveness => [.pinged]
      | .disassembler => listingEvents (Body.value request.headers request.body)
      | _ => []
  | _ => []

end Request

end Microcode.Service
