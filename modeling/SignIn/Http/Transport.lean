import SignIn.Http.Headers
import SignIn.Text.Segments

/-!
# Did the request come over https

Encryption ends at a proxy in front of the service, so its headers are believed: the forwarded
scheme, or a forwarded element with an https scheme. A loopback host passes too.
-/

namespace SignIn.Transport

/-- The hosts of the machine itself. -/
def loopbackNames : List String := ["localhost", "127.0.0.1", "::1"]

/-- The host without brackets and port names the machine itself. -/
def isLoopback (host : String) : Bool :=
  let name := match (Text.trimChars host.toList).map Text.lowerChar with
    | '[' :: rest => Text.upTo ']' rest
    | cs => Text.upTo ':' cs
  loopbackNames.contains (String.ofList name)

/-- The first line of a name as text, trimmed and in lower case. -/
def normalized? (headers : Headers) (name : String) : Option (List Char) :=
  (headers.firstText? name).map fun v => (Text.trimChars v.toList).map Text.lowerChar

/-- The request reached the service over https. -/
def isHttps (headers : Headers) : Bool :=
  (normalized? headers "x-forwarded-proto").any (· == "https".toList) ||
    (normalized? headers "forwarded").any (Text.contains "proto=https".toList) ||
    (headers.firstText? "host").any isLoopback

end SignIn.Transport
