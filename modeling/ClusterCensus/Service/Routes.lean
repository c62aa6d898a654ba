import ClusterCensus.Service.Report
import ClusterCensus.Text.Quoted

/-!
# Routes

The service answers four paths, all with GET alone; a line feed behind a path does not count. A
path that is known but for the slashes behind it is redirected to the known one, whatever the
method. The target is written with every character escaped that may not stand in an address.

What the service itself decides are its paths and what it answers there, `Route.path` and
`Route.answer`; results are about these. The line feed, the redirection, the refusal of other methods
and the answer where nothing is found are rules of the web server that carries the service. They are
here so that every request has a response, and no result rests on them.
-/
namespace ClusterCensus

structure HttpRequest where
  method : String
  path : String
  query : String := ""

structure HttpResponse where
  status : Nat
  body : Option Fields
  allow : Option String := none
  location : Option String := none

/-- What the service answers. -/
inductive Route where
  | root
  | ping
  | health
  | lastCycle
deriving DecidableEq

namespace Route

def path : Route → String
  | root => "/"
  | ping => "/ping"
  | health => "/healthz"
  | lastCycle => "/cycles/last"

/-- The path is that of the route, but for one line feed behind it. -/
def accepts (route : Route) (path : String) : Bool :=
  path == route.path || path == route.path ++ "\n"

def find? (path : String) : Option Route :=
  [root, ping, health, lastCycle].find? (·.accepts path)

/-- A response that only explains itself. -/
def explained (status : Nat) (detail : String) : HttpResponse :=
  { status := status, body := some [("detail", .text detail)] }

def answer (last : Option CycleSummary) : Route → HttpResponse
  | root =>
    { status := 200
      body := some [("status", .text "ok"), ("message", .text "kube-stats-collector is running")] }
  | ping => { status := 200, body := some [("message", .text "pong")] }
  | health => { status := 200, body := some (Health.ofLast last).fields }
  | lastCycle =>
    match last with
    | none => explained 404 noCycleDetail
    | some summary =>
      { status := 200, body := some (summary.reportFields (Moment.write .letter)) }

end Route

namespace HttpRequest

def addressByte (byte : UInt8) : List Char :=
  let c := Char.ofNat byte.toNat
  if c.isAlphanum || "_.-~:/%#?=@[]!$&'()*+,;".toList.contains c then [c]
  else '%' :: (Text.hexDigits 2 byte.toNat).map Char.toUpper

/-- An address with the characters escaped that may not stand in it. -/
def address (text : String) : String :=
  String.ofList (text.toUTF8.toList.flatMap addressByte)

def withoutTrailingSlashes (path : String) : String :=
  String.ofList ((path.toList.reverse.dropWhile (· == '/')).reverse)

/-- The path with its final slashes taken off, or with one put on when it has none. -/
def withOtherSlashes (path : String) : String :=
  if path.toList.getLast? = some '/' then withoutTrailingSlashes path else path ++ "/"

/-- The path that a request to an unknown path is redirected to. -/
def redirection? (request : HttpRequest) : Option String :=
  some (withOtherSlashes request.path) |>.filter fun path => (Route.find? path).isSome

def respond (host : String) (last : Option CycleSummary) (request : HttpRequest) : HttpResponse :=
  match Route.find? request.path with
  | some route =>
    if request.method = "GET" then route.answer last
    else { Route.explained 405 "Method Not Allowed" with allow := some "GET" }
  | none =>
    match request.redirection? with
    | some path =>
      let query := if request.query.isEmpty then "" else "?" ++ request.query
      { status := 307
        body := none
        location := some (address ("http://" ++ host ++ path ++ query)) }
    | none => Route.explained 404 "Not Found"

end HttpRequest
end ClusterCensus
