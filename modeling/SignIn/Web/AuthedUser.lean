import SignIn.Service.Failure
import SignIn.Session.Claims

/-!
# The user behind a session

A handler that needs a user reads the claims that the session check has left with the request.
-/

namespace SignIn

/-- The user of a request. -/
structure AuthedUser where
  id : String
  email : String
  roles : List String
  expires : Instant

/-- The user of claims, refused without claims and when the session ends outside the calendar. -/
def AuthedUser.ofClaims? : Option Claims → Except ApiError AuthedUser
  | none => .error ⟨.unauthorized, "missing_session"⟩
  | some claims =>
    match claims.expiryInstant? with
    | none => .error ⟨.unauthorized, "invalid_session"⟩
    | some expires => .ok ⟨claims.userId, claims.email, claims.roles, expires⟩

end SignIn
