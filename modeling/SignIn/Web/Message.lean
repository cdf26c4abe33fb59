import SignIn.Http.Headers
import SignIn.Service.Failure
import SignIn.Web.Target

/-!
# Requests and responses

A response carries its headers in order, `set-cookie` among them, and its body as text.
-/

namespace SignIn

/-- A request. -/
structure Request where
  method : String
  /-- The path, perhaps behind a scheme and an authority, and perhaps with a query behind it. -/
  target : String
  headers : Headers
  body : Bytes

/-- The path alone. -/
def Request.path (r : Request) : String := Target.path r.target

/-- A response. -/
structure Response where
  status : Nat
  headers : Headers
  body : String
  deriving DecidableEq

namespace Response

/-- A response without headers and body. -/
def empty (status : Nat) : Response := ⟨status, [], ""⟩

/-- A response with a JSON body. -/
def json (status : Nat) (body : String) : Response :=
  ⟨status, [("content-type", "application/json")], body⟩

/-- The response of an error. -/
def ofError (e : ApiError) : Response := json e.kind.status e.body

/-- One header more. -/
def withHeader (r : Response) (name value : String) : Response :=
  { r with headers := r.headers ++ [(name, value)] }

/-- The cookies that a response sets, in order. -/
def cookies (r : Response) : List String := r.headers.values "set-cookie"

/-- The response with cookies; one that cannot stand in a header makes it an error without any. -/
def withCookies (r : Response) (cookies : List String) : Response :=
  if cookies.all Headers.isValue then
    { r with headers := r.headers ++ cookies.map fun cookie => ("set-cookie", cookie) }
  else ofError ⟨.internal, "invalid_cookie"⟩

end Response

end SignIn
