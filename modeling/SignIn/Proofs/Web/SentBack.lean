import SignIn.Proofs.Web.Lifetime

/-!
# Cookies are written and sent back

All that the text of a cookie is put together from can stand in a header, but for a name or a domain
that cannot (`Cookie.isValue_set`). So a response sets both cookies of a session or is an error
(`Response.withCookies_set`).

The two values are plain under all settings. Under settings that were built, both are found where a
browser sends their cookies back, if and only if nothing in the names of the cookies is reserved
(`Draft.cookies_are_written_and_found`). Settings are built with any characters in a name and in the
domain.
-/

namespace SignIn

/-! ## Texts in headers -/

namespace Headers

theorem isValue_append (s t : String) : isValue (s ++ t) = (isValue s && isValue t) := by
  simp only [isValue, String.toList_append, List.all_append]

theorem isValue_of_isText {s : String} (h : isText s = true) : isValue s = true := by
  rw [isText, List.all_eq_true] at h
  rw [isValue, List.all_eq_true]
  intro c hc
  have hchar := h c hc
  simp only [Bool.or_eq_true, Bool.and_eq_true, decide_eq_true_eq, beq_iff_eq,
    bne_iff_ne] at hchar ⊢
  omega

theorem isText_cons {c : Char} (hc : isText (String.ofList [c]) = true) (cs : List Char) :
    isText (String.ofList (c :: cs)) = isText (String.ofList cs) := by
  rw [← List.singleton_append, isText_append, hc, Bool.true_and]

end Headers

open Headers

namespace Decimal

theorem isText_digits (n : Nat) : isText (String.ofList (digits n)) = true := by
  rw [isText, String.toList_ofList, List.all_eq_true]
  intro c hc
  have hdigit := Json.isDigit_of_mem_digits hc
  simp only [Text.isDigit, Bool.or_eq_true, Bool.and_eq_true, decide_eq_true_eq] at hdigit ⊢
  omega

theorem isText_padded (width n : Nat) : isText (String.ofList (padded width n)) = true := by
  have hzeros : isText (String.ofList (List.replicate (width - (digits n).length) '0')) = true := by
    rw [isText, String.toList_ofList, List.all_eq_true]
    intro c hc
    rw [List.eq_of_mem_replicate hc]
    decide
  rw [padded, isText_append, hzeros, isText_digits]
  rfl

theorem isText_signed (n : Int) : isText (String.ofList (signed n)) = true := by
  rw [signed]
  split_ifs
  · rw [isText_cons (by decide), isText_digits]
  · exact isText_digits _

end Decimal

namespace Stamp

open Decimal

theorem isText_year (y : Int) : isText (String.ofList (year y)) = true := by
  rw [year]
  split_ifs
  · exact isText_padded _ _
  · rw [isText_cons (by decide), isText_padded]
  · rw [isText_cons (by decide), isText_padded]

theorem isText_timeOfDay (t : Instant) : isText (String.ofList (timeOfDay t)) = true := by
  have hcolon := isText_cons (by decide : isText (String.ofList [':']) = true)
  simp only [timeOfDay, isText_append, hcolon, isText_padded, Bool.and_self]

/-- What is looked up in a table of texts is text. -/
theorem isText_getD {names : List String} (h : ∀ name ∈ names, isText name = true) (n : Nat) :
    isText (names.getD n "") = true := by
  rw [List.getD_eq_getElem?_getD]
  cases hname : names[n]? with
  | none => rfl
  | some name => exact h name (List.mem_of_getElem? hname)

theorem isText_dayName (n : Nat) : isText (dayName n) = true := isText_getD (by decide) n

theorem isText_monthName (n : Nat) : isText (monthName n) = true := isText_getD (by decide) (n - 1)

/-- A date is text that a header line can carry, in any year. -/
theorem isText_cookieDate (t : Instant) : isText (String.ofList (cookieDate t)) = true := by
  have hblank := isText_cons (by decide : isText (String.ofList [' ']) = true)
  have hcomma := isText_cons (by decide : isText (String.ofList [',']) = true)
  have hzone : isText (String.ofList ['G', 'M', 'T']) = true := by decide
  simp only [cookieDate, isText_append, hblank, hcomma, hzone, String.ofList_toList, isText_padded,
    isText_year, isText_timeOfDay, isText_dayName, isText_monthName, Bool.and_self]

end Stamp

/-! ## Cookies that are written -/

namespace Cookie

variable (settings : Settings)

/-- The attributes can be sent if and only if the domain can. -/
theorem isValue_attributes :
    isValue (attributes settings) = settings.cookieDomain.all isValue := by
  have hwords : isValue "; Secure" = true ∧ isValue "" = true ∧ isValue "; SameSite=" = true := by
    decide
  have hsite : isValue settings.sameSite.text = true := by cases settings.sameSite <;> decide
  have hdomain : isValue (settings.cookieDomain.elim "" fun domain => "; Domain=" ++ domain) =
      settings.cookieDomain.all isValue := by
    cases settings.cookieDomain with
    | none => rfl
    | some domain =>
      rw [Option.elim_some, isValue_append, Option.all_some]
      rfl
  simp only [attributes, isValue_append, hdomain, hsite, hwords, apply_ite isValue, ite_self,
    Bool.and_true]

/-- The text that sets a value can stand in a header if and only if the name and the domain can. -/
theorem isValue_set {name value path : String} (hvalue : isValue value = true)
    (hpath : isValue path = true) (expires now : Instant) :
    isValue (set settings name value path expires now) =
      (isValue name && settings.cookieDomain.all isValue) := by
  have hwords : isValue "=" = true ∧ isValue "; Path=" = true ∧
      isValue "; HttpOnly; Expires=" = true ∧ isValue "; Max-Age=" = true := by decide
  have hdate := isValue_of_isText (Stamp.isText_cookieDate expires)
  have hage := isValue_of_isText (Decimal.isText_signed (max (expires.secondsSince now) 0))
  simp only [set, compose, isValue_append, isValue_attributes, hvalue, hpath, hdate, hage, hwords,
    Bool.and_true]

end Cookie

/-- The names of the two cookies and their domain can stand in a header. -/
def Settings.isWritable (settings : Settings) : Bool :=
  isValue settings.sessionCookie && isValue settings.refreshCookie &&
    settings.cookieDomain.all isValue

/-- Either both cookies of a session are written, or the response is an error. -/
theorem Response.withCookies_set (response : Response) (settings : Settings) {token secret : String}
    (htoken : isValue token = true) (hsecret : isValue secret = true)
    (expires expires' now : Instant) :
    let session := Cookie.setSession settings token expires now
    let refresh := Cookie.setRefresh settings secret expires' now
    response.withCookies [session, refresh] =
      if settings.isWritable then
        { response with
          headers := response.headers ++ [("set-cookie", session), ("set-cookie", refresh)] }
      else .ofError ⟨.internal, "invalid_cookie"⟩ := by
  intro session refresh
  have hsession :
      isValue session = (isValue settings.sessionCookie && settings.cookieDomain.all isValue) :=
    Cookie.isValue_set settings htoken (by decide) expires now
  have hrefresh :
      isValue refresh = (isValue settings.refreshCookie && settings.cookieDomain.all isValue) :=
    Cookie.isValue_set settings hsecret (by decide) expires' now
  have hall : [session, refresh].all isValue = settings.isWritable := by
    rw [List.all_cons, List.all_cons, List.all_nil, hsession, hrefresh, Settings.isWritable]
    cases settings.cookieDomain.all isValue <;> simp
  rw [withCookies, hall]
  rfl

/-! ## Cookies that are sent back -/

/-- Under settings that were built, both cookies of a session are written when their names and the
domain can stand in a header ; otherwise the response is an error and sets none. In a line that
sends both back, in either order, the token and the secret are found if and only if the two names
are visible ASCII, spaces and tabs without a semicolon and an equals sign. This is said of names
without blanks at their ends. -/
theorem Draft.cookies_are_written_and_found {draft : Draft} {settings : Settings}
    {profile : Profile} {issued : Instant} {minted : Minted} (hbuild : draft.build = .ok settings)
    (hmint : SessionToken.mint profile settings.issuer settings.signingKey issued
      settings.sessionLifetime = .ok (some minted))
    (bytes : Bytes) (refreshExpires now : Instant) :
    let secret := Identifier.secret bytes
    let session := Cookie.setSession settings minted.token minted.expires now
    let refresh := Cookie.setRefresh settings secret refreshExpires now
    (∀ response : Response, response.withCookies [session, refresh] =
        if settings.isWritable then
          { response with
            headers := response.headers ++ [("set-cookie", session), ("set-cookie", refresh)] }
        else .ofError ⟨.internal, "invalid_cookie"⟩) ∧
      (Text.trim settings.sessionCookie = settings.sessionCookie →
        Text.trim settings.refreshCookie = settings.refreshCookie →
        ∀ (headers : Headers) (texts : List String), texts.Perm [session, refresh] →
          headers.values "cookie" = [Cookie.sentBack texts] →
          (Cookie.value? headers settings.sessionCookie = some minted.token ∧
              Cookie.value? headers settings.refreshCookie = some secret ↔
            Cookie.IsName settings.sessionCookie.toList ∧
              Cookie.IsName settings.refreshCookie.toList)) := by
  intro secret session refresh
  have htoken : Cookie.IsPlain minted.token.toList := by
    rw [(SessionToken.token_of_mint hmint).2]
    exact SessionToken.isPlain_sign _ _
  have hsecret : Cookie.IsPlain secret.toList := by
    rw [show secret.toList = Base64Url.encode bytes from String.toList_ofList]
    exact Base64Url.isPlain_encode bytes
  refine ⟨fun response => ?written, ?found⟩
  case written =>
    exact response.withCookies_set settings (isValue_of_isText (by simpa using htoken.isText))
      (isValue_of_isText (by simpa using hsecret.isText)) minted.expires refreshExpires now
  case found =>
    intro hsession hrefresh headers texts hperm hline
    refine ⟨fun ⟨hfound, hfound'⟩ =>
      ⟨Cookie.isName_of_value? hfound, Cookie.isName_of_value? hfound'⟩, ?_⟩
    rintro ⟨hname, hname'⟩
    -- A browser keeps the name and the value of each text.
    have hpart : Text.upTo ';' session.toList =
        Cookie.said (settings.sessionCookie.toList, minted.token.toList) :=
      Cookie.upTo_set hname.2.1 htoken.not_mem ..
    have hpart' : Text.upTo ';' refresh.toList =
        Cookie.said (settings.refreshCookie.toList, secret.toList) :=
      Cookie.upTo_set hname'.2.1 hsecret.not_mem ..
    exact Cookie.value?_of_sentBack hpart hpart'
      ⟨hname, Text.trimChars_of_trim hsession, htoken⟩
      ⟨hname', Text.trimChars_of_trim hrefresh, hsecret⟩
      (Draft.sound_of_build hbuild).distinct hperm hline

/-! ## Odd names and domains -/

namespace OddNames

open SessionToken (ada noon)
open FirstLogin (twentyPast)

/-- Another name for the session cookie, and a domain. -/
def draft (name domain : String) : Draft :=
  Draft.setCookieDomain { FirstLogin.draft with sessionCookie := name } domain

/-- What is built of the draft. -/
def settings (name : String) (domain : Option String) : Settings :=
  { FirstLogin.settings with sessionCookie := name, cookieDomain := domain }

def token : String := SessionToken.sign [7] (SessionToken.claims ada "tauth" noon twentyPast)

theorem mint_ada (name : String) (domain : Option String) :
    SessionToken.mint ada (settings name domain).issuer (settings name domain).signingKey noon
      (settings name domain).sessionLifetime = .ok (some ⟨token, twentyPast⟩) := rfl

def secret : String := Identifier.secret [1, 2, 3]

def session (s : Settings) : String := Cookie.setSession s token twentyPast noon

def refresh (s : Settings) : String := Cookie.setRefresh s secret twentyPast noon

/-- Both cookies of the settings are sent back. -/
def headers (s : Settings) : Headers := [("cookie", Cookie.sentBack [session s, refresh s])]

/-- The names by default, with a domain. -/
def ordinary : Settings := settings "app_session" (some "example.com")

/-- An equals sign in a name. -/
def oddName : Settings := settings "a=b" none

/-- A line break in the domain. -/
def oddDomain : Settings := settings "app_session" (some "example\n.com")

/-- Both cookies are written and found again. -/
theorem ordinary_cookies_come_back :
    (draft "app_session" "example.com").build = .ok ordinary ∧
      (Response.empty 204).withCookies [session ordinary, refresh ordinary] =
        ⟨204, [("set-cookie", session ordinary), ("set-cookie", refresh ordinary)], ""⟩ ∧
      Cookie.value? (headers ordinary) "app_session" = some token ∧
      Cookie.value? (headers ordinary) "app_refresh" = some secret := by
  have hbuild : (draft "app_session" "example.com").build = .ok ordinary := rfl
  obtain ⟨hwritten, hfound⟩ :=
    Draft.cookies_are_written_and_found hbuild (mint_ada _ _) [1, 2, 3] twentyPast noon
  refine ⟨hbuild, (hwritten _).trans (if_pos (by decide)), ?_⟩
  exact (hfound (by decide) (by decide) (headers ordinary) _ (.refl _)
    (Headers.values_singleton _ _)).2 ⟨by decide, by decide⟩

/-- The cookie of the odd name is written but not found again, and the cookies of the odd domain are
not written, although both drafts are built and their tokens are minted. -/
theorem reserved_characters_lose_cookies :
    ((draft "a=b" "").build = .ok oddName ∧
      SessionToken.mint ada oddName.issuer oddName.signingKey noon oddName.sessionLifetime =
        .ok (some ⟨token, twentyPast⟩) ∧
      (Response.empty 204).withCookies [session oddName, refresh oddName] =
        ⟨204, [("set-cookie", session oddName), ("set-cookie", refresh oddName)], ""⟩ ∧
      Cookie.value? (headers oddName) "a=b" ≠ some token) ∧
    ((draft "app_session" "example\n.com").build = .ok oddDomain ∧
      SessionToken.mint ada oddDomain.issuer oddDomain.signingKey noon oddDomain.sessionLifetime =
        .ok (some ⟨token, twentyPast⟩) ∧
      (Response.empty 204).withCookies [session oddDomain, refresh oddDomain] =
        .ofError ⟨.internal, "invalid_cookie"⟩) := by
  have htoken : Headers.isValue token = true :=
    isValue_of_isText (by simpa [token] using (SessionToken.isPlain_sign [7] _).isText)
  have hwritten (s : Settings) := (Response.empty 204).withCookies_set s htoken
    (by decide : Headers.isValue secret = true) twentyPast twentyPast noon
  refine ⟨⟨rfl, mint_ada _ _, (hwritten _).trans (if_pos (by decide)), fun h => ?_⟩,
    ⟨rfl, mint_ada _ _, (hwritten _).trans (if_neg (by decide))⟩⟩
  exact absurd (Cookie.isName_of_value? h) (by decide)

end OddNames

end SignIn
