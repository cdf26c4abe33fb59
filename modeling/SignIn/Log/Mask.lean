import SignIn.Text.Ascii
import SignIn.Text.Segments

/-!
# Masks for logs

Addresses and tokens are logged so that they can be told apart but not used: of an address the
first character and the domain, of a token four characters at each end.
-/

namespace SignIn.Mask

/-- An address of more than three bytes with one at sign; any other text is masked whole. -/
def email (s : String) : String :=
  match Text.cut? '@' s.toList with
  | some (user, domain) =>
    if 3 < s.utf8ByteSize && !domain.contains '@' then
      String.ofList (user.take 1) ++ "***@" ++ String.ofList domain
    else "***@***.***"
  | none => "***@***.***"

/-- An ASCII token of more than eight characters; any other text is masked whole. -/
def token (s : String) : String :=
  let cs := s.toList
  if Text.isAscii s && 8 < cs.length then
    String.ofList (cs.take 4) ++ "..." ++ String.ofList (cs.drop (cs.length - 4))
  else "***"

end SignIn.Mask
