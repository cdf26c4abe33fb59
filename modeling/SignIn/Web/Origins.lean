import SignIn.Web.Router

/-!
# Requests from other origins

A browser that asks from another origin is told which origins may ask with credentials. Every
response says so for a listed origin, and every OPTIONS request is answered at once with the
methods and headers that may be used. The wildcard cannot be listed, since answers carry
credentials.
-/

namespace SignIn

/-- The origins that may ask. -/
structure Origins where
  listed : List String
  deriving DecidableEq

namespace Origins

/-- The origins when none are configured. -/
def defaultText : String := "http://localhost:3000,http://localhost:5173"

/-- The origins of a comma-separated text, trimmed; what cannot stand in a header is dropped, and
none when the wildcard is among them. -/
def ofText? (text : String) : Option Origins :=
  let listed := ((Text.segments ',' text.toList).map fun part =>
    String.ofList (Text.trimChars part)).filter Headers.isValue
  if listed.contains "*" then none else some ⟨listed⟩

/-- The header that names the origin of a request, if it is listed. -/
def grant (origins : Origins) (r : Request) : Headers :=
  match r.headers.first? "origin" with
  | some origin =>
    if origins.listed.contains origin then [("access-control-allow-origin", origin)] else []
  | none => []

/-- The headers of every response. -/
def common (origins : Origins) (r : Request) : Headers :=
  [("vary", "origin, access-control-request-method, access-control-request-headers"),
   ("access-control-allow-credentials", "true")] ++ origins.grant r

/-- The answer to an OPTIONS request. -/
def preflight (origins : Origins) (r : Request) : Response where
  status := 200
  headers := origins.common r ++
    [("access-control-allow-methods", "GET,POST,OPTIONS"),
     ("access-control-allow-headers", "content-type,x-request-id")] ++
    ((Route.ofPath? r.path).toList.map fun route => ("allow", route.allow))
  body := ""

/-- Answers a request on behalf of an application. -/
def handle (origins : Origins) (app : App) (r : Request) : Operation Response :=
  if r.method = "OPTIONS" then .done (origins.preflight r)
  else (app.handle r).bind fun response =>
    .done { response with headers := response.headers ++ origins.common r }

end Origins

end SignIn
