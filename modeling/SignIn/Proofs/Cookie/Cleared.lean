import SignIn.Proofs.Cookie.Sent
import SignIn.Proofs.Settings.Built
import SignIn.Proofs.Time.CookieDate

/-!
# Clearing hits the cookie that was set

A browser cuts the text of a cookie at its semicolons. The first part holds the name, and each of
the others names an attribute, wherever its blanks and whatever the case of its letters
(`Attribute.names`). The texts of the service fall into the parts that they were put together from
(`parts_compose`), each of which names the attribute that it was meant for and no other
(`Attribute.names_part`).

So all that is said of one attribute can be read off the list of what was written
(`partsIn_compose`). For a cookie that is set and for one that is cleared the lists differ in the
date and in the seconds alone (`clears`), and under settings that were built the two cookies are
told apart by their names (`Draft.clearing_hits_what_was_set`).
-/

namespace SignIn

/-- A text falls into what stands before its first separator and what stands behind each. -/
theorem Text.segments_flatMap {sep : Char} {first : List Char} (hfirst : sep ∉ first) :
    ∀ {parts : List (List Char)}, (∀ p ∈ parts, sep ∉ p) →
      segments sep (first ++ parts.flatMap (sep :: ·)) = first :: parts
  | [], _ => by
    rw [List.flatMap_nil, List.append_nil]
    exact segments_of_not_mem hfirst
  | p :: parts, h => by
    obtain ⟨hp, hparts⟩ := List.forall_mem_cons.1 h
    rw [List.flatMap_cons, List.cons_append, segments_append hfirst, segments_flatMap hp hparts]

namespace Cookie

open Text

/-! ## The parts of a text -/

/-- The attributes of a cookie. -/
inductive Attribute where
  | path
  | httpOnly
  | expires
  | maxAge
  | domain
  | secure
  | sameSite
  deriving DecidableEq

/-- The parts of a text between its semicolons. -/
def parts (text : String) : List (List Char) := segments ';' text.toList

/-- The name of a cookie, all before the first equals sign of the first part. -/
def nameIn (text : String) : List Char := upTo '=' ((parts text).headD [])

namespace Attribute

/-- The name of an attribute. -/
def name : Attribute → String
  | path => "Path"
  | httpOnly => "HttpOnly"
  | expires => "Expires"
  | maxAge => "Max-Age"
  | domain => "Domain"
  | secure => "Secure"
  | sameSite => "SameSite"

/-- The part names the attribute, alone or before an equals sign. Blanks around the name and the
case of its letters do not count. -/
def names (a : Attribute) (part : List Char) : Bool :=
  sameIgnoringCase (String.ofList (trimChars (upTo '=' part))) a.name

/-- The parts of a text behind the first that name the attribute. -/
def partsIn (a : Attribute) (text : String) : List (List Char) := (parts text).tail.filter a.names

/-- An attribute as it is written, with a value or without. -/
def part (a : Attribute) (value : Option (List Char)) : List Char :=
  ' ' :: (a.name.toList ++ value.elim [] ('=' :: ·))

/-- A part names the attribute that it was written for. -/
theorem names_part (a b : Attribute) (value : Option (List Char)) :
    a.names (b.part value) = decide (b = a) := by
  have hequals : '=' ∉ ' ' :: b.name.toList := by cases b <;> decide
  have hname : upTo '=' (b.part value) = ' ' :: b.name.toList := by
    cases value with
    | none =>
      rw [part, Option.elim_none, List.append_nil, upTo, List.takeWhile_eq_self_iff]
      exact fun c hc => decide_eq_true fun he => hequals (he ▸ hc)
    | some v => exact upTo_append hequals v
  rw [names, hname]
  -- no two names differ in the case of their letters alone
  cases a <;> cases b <;> decide

theorem semicolon_not_mem_part {a : Attribute} {value : Option (List Char)}
    (h : ∀ v ∈ value, ';' ∉ v) : ';' ∉ a.part value := by
  have hname : ';' ∉ a.name.toList := by cases a <;> decide
  cases value with
  | none => simp [part, hname]
  | some v => simp [part, hname, h v rfl]

end Attribute

/-! ## What is written -/

/-- The attributes that every cookie ends in, with their values. -/
def ending (settings : Settings) : List (Attribute × Option (List Char)) :=
  (settings.cookieDomain.toList.map fun domain => (.domain, some domain.toList)) ++
    (if !settings.allowInsecureHttp || settings.sameSite == .none then [(.secure, none)] else []) ++
    [(.sameSite, some settings.sameSite.text.toList)]

/-- The attributes of a cookie, with their values. -/
def listed (settings : Settings) (path expires : String) (maxAge : Int) :
    List (Attribute × Option (List Char)) :=
  [(.path, some path.toList), (.httpOnly, none), (.expires, some expires.toList),
    (.maxAge, some (Decimal.signed maxAge))] ++ ending settings

variable {settings : Settings} {name value path expires : String} {maxAge : Int}

/-- The attributes are written one after the other, each behind a semicolon. -/
theorem toList_attributes (settings : Settings) :
    (attributes settings).toList = (ending settings).flatMap fun l => ';' :: l.1.part l.2 := by
  have hdomain : (settings.cookieDomain.elim "" fun domain => "; Domain=" ++ domain).toList =
      (settings.cookieDomain.toList.map fun domain =>
        (Attribute.domain, some domain.toList)).flatMap fun l => ';' :: l.1.part l.2 := by
    cases settings.cookieDomain <;> simp [Attribute.part, Attribute.name]
  simp only [attributes, ending, String.toList_append, List.flatMap_append, hdomain]
  split_ifs <;> simp [Attribute.part, Attribute.name]

/-- A cookie is its name and value, and behind a semicolon each of the parts listed. -/
theorem toList_compose (settings : Settings) (name value path expires : String) (maxAge : Int) :
    (compose settings name value path expires maxAge).toList =
      (name.toList ++ '=' :: value.toList) ++
      ((listed settings path expires maxAge).map fun l => l.1.part l.2).flatMap (';' :: ·) := by
  simp [compose, listed, toList_attributes, Attribute.part, Attribute.name, List.flatMap_map]

theorem semicolon_not_mem_getD {names : List String} (h : ∀ name ∈ names, ';' ∉ name.toList)
    (n : ℕ) : ';' ∉ (names.getD n "").toList := by
  rw [List.getD_eq_getElem?_getD]
  cases hname : names[n]? with
  | none => exact List.not_mem_nil
  | some name => exact h name (List.mem_of_getElem? hname)

theorem semicolon_not_mem_cookieDate (t : Instant) : ';' ∉ Stamp.cookieDate t := by
  have hpadded : ∀ width n, ';' ∉ Decimal.padded width n := CookieDate.not_mem_padded (by decide)
  have hday : ∀ n, ';' ∉ (Stamp.dayName n).toList := semicolon_not_mem_getD (by decide)
  have hmonth : ∀ n, ';' ∉ (Stamp.monthName n).toList :=
    fun n => semicolon_not_mem_getD (by decide) (n - 1)
  have hyear : ∀ y, ';' ∉ Stamp.year y :=
    CookieDate.not_mem_year (by decide) (by decide) (by decide)
  simp [Stamp.cookieDate, Stamp.timeOfDay, hpadded, hday, hmonth, hyear]

theorem semicolon_not_mem_signed (n : Int) : ';' ∉ Decimal.signed n := by
  have hdigits : ∀ m, ';' ∉ Decimal.digits m := fun m h =>
    absurd (Json.isDigit_of_mem_digits h) (by decide)
  rw [Decimal.signed]
  split_ifs <;> simp [hdigits]

/-- Nothing that goes into the text of a cookie holds a semicolon. -/
structure FreeOfSemicolons (settings : Settings) (name value path expires : String) : Prop where
  name : ';' ∉ name.toList
  value : ';' ∉ value.toList
  path : ';' ∉ path.toList
  expires : ';' ∉ expires.toList
  domain : ∀ domain ∈ settings.cookieDomain, ';' ∉ domain.toList

namespace FreeOfSemicolons

variable (h : FreeOfSemicolons settings name value path expires) (maxAge : Int)
include h

/-- No value of an attribute has a semicolon, so the semicolons between the parts are all there
are. -/
theorem not_mem_listed : ∀ l ∈ listed settings path expires maxAge, ∀ v ∈ l.2, ';' ∉ v := by
  have hsite : ';' ∉ settings.sameSite.text.toList := by cases settings.sameSite <;> decide
  intro l hl v hv
  simp only [listed, ending, List.mem_append, List.mem_cons, List.not_mem_nil, or_false,
    List.mem_map, Option.mem_toList] at hl
  rcases hl with (rfl | rfl | rfl | rfl) | (⟨domain, hd, rfl⟩ | hsecure) | rfl
  · cases hv
    exact h.path
  · cases hv
  · cases hv
    exact h.expires
  · cases hv
    exact semicolon_not_mem_signed maxAge
  · cases hv
    exact h.domain domain hd
  · split_ifs at hsecure
    · obtain rfl := List.mem_singleton.1 hsecure
      cases hv
    · cases hsecure
  · cases hv
    exact hsite

/-- The text of a cookie falls into its name with the value and its attributes. -/
theorem parts_compose : parts (compose settings name value path expires maxAge) =
    (name.toList ++ '=' :: value.toList) ::
      (listed settings path expires maxAge).map fun l => l.1.part l.2 := by
  have hfirst : ';' ∉ name.toList ++ '=' :: value.toList := by simp [h.name, h.value]
  rw [parts, toList_compose]
  refine segments_flatMap hfirst (List.forall_mem_map.2 fun l hl => ?_)
  exact Attribute.semicolon_not_mem_part (h.not_mem_listed maxAge l hl)

/-- What is said of an attribute is what was written of it. -/
theorem partsIn_compose (a : Attribute) :
    a.partsIn (compose settings name value path expires maxAge) =
      ((listed settings path expires maxAge).filter fun l => l.1 = a).map fun l =>
        l.1.part l.2 := by
  have hnames : (a.names ∘ fun l : Attribute × Option (List Char) => l.1.part l.2) =
      fun l => decide (l.1 = a) := funext fun l => Attribute.names_part a l.1 l.2
  rw [Attribute.partsIn, h.parts_compose, List.tail_cons, List.filter_map, hnames]

/-- The name that a client reads is the one that was written. -/
theorem nameIn_compose (hequals : '=' ∉ name.toList) :
    nameIn (compose settings name value path expires maxAge) = name.toList := by
  rw [nameIn, h.parts_compose, List.headD_cons, upTo_append hequals]

end FreeOfSemicolons

/-! ## What is written of one attribute -/

/-- It depends on the date and on the seconds for these two alone. -/
theorem filter_listed_congr {a : Attribute} (hdate : a ≠ .expires) (hseconds : a ≠ .maxAge)
    (expires' : String) (maxAge' : Int) :
    ((listed settings path expires maxAge).filter fun l => l.1 = a) =
      (listed settings path expires' maxAge').filter fun l => l.1 = a := by
  cases a with
  | expires => exact absurd rfl hdate
  | maxAge => exact absurd rfl hseconds
  | path | httpOnly | domain | secure | sameSite => simp [listed]

/-- There is exactly one Max-Age, with the number that was asked for. -/
theorem filter_listed_maxAge :
    ((listed settings path expires maxAge).filter fun l => l.1 = .maxAge) =
      [(.maxAge, some (Decimal.signed maxAge))] := by
  simp [listed, ending]

/-- There is exactly one SameSite, that of the settings. -/
theorem filter_listed_sameSite :
    ((listed settings path expires maxAge).filter fun l => l.1 = .sameSite) =
      [(.sameSite, some settings.sameSite.text.toList)] := by
  simp [listed, ending, List.filter_map, Function.comp_def, apply_ite (List.filter _)]

/-- Secure is there if no insecure transport is allowed or the cookie is sent across sites, and then
once. -/
theorem filter_listed_secure :
    ((listed settings path expires maxAge).filter fun l => l.1 = .secure) =
      if !settings.allowInsecureHttp || settings.sameSite == .none then [(.secure, none)]
      else [] := by
  split_ifs with h <;> simp [listed, ending, h]

/-- Beside the date and the seconds, three attributes are written once in every case. -/
theorem exists_filter_listed {a : Attribute} (h : a ∈ [Attribute.path, .httpOnly, .sameSite]) :
    ∃ l, ((listed settings path expires maxAge).filter fun l => l.1 = a) = [l] := by
  simp only [List.mem_cons, List.not_mem_nil, or_false] at h
  rcases h with rfl | rfl | rfl
  · simp [listed, ending]
  · simp [listed, ending]
  · exact ⟨_, filter_listed_sameSite⟩

/-! ## Setting and clearing -/

/-- One text clears the cookie that the other sets. To a browser it is the same cookie, and its time
is up. -/
structure Clears (clearing setting : String) : Prop where
  name : nameIn clearing = nameIn setting
  /-- What tells one cookie from another, and where it is sent, is said alike. -/
  attributes : ∀ a ∈ [Attribute.path, .domain, .secure, .httpOnly, .sameSite],
    a.partsIn clearing = a.partsIn setting
  once : ∀ a ∈ [Attribute.path, .httpOnly, .sameSite], ∃ part, a.partsIn setting = [part]
  seconds : ∃ n : ℕ, Attribute.maxAge.partsIn setting = [" Max-Age=".toList ++ Decimal.digits n]
  ended : Attribute.maxAge.partsIn clearing = [" Max-Age=0".toList]

/-- A text that lets its cookie be sent across sites asks for a secure transport, and so does every
text without leave for an insecure one. -/
def KeepsSecure (settings : Settings) (text : String) : Prop :=
  " SameSite=None".toList ∈ Attribute.sameSite.partsIn text ∨ settings.allowInsecureHttp = false →
    Attribute.secure.partsIn text = [" Secure".toList]

/-- Any cookie of these settings keeps Secure, for its parts are read as they were listed. -/
theorem FreeOfSemicolons.keepsSecure (h : FreeOfSemicolons settings name value path expires)
    (maxAge : Int) : KeepsSecure settings (compose settings name value path expires maxAge) := by
  unfold KeepsSecure
  rw [h.partsIn_compose, h.partsIn_compose, filter_listed_sameSite, filter_listed_secure]
  intro hasked
  have hsecure : (!settings.allowInsecureHttp || settings.sameSite == .none) = true := by
    rcases hasked with hnone | hforbidden
    · cases hsite : settings.sameSite with
      | none => simp
      | strict | lax =>
        rw [hsite] at hnone
        exact absurd hnone (by decide)
    · simp [hforbidden]
  rw [if_pos hsecure]
  rfl

/-- Seconds that are left are no negative number. -/
theorem exists_signed_eq_digits (n : Int) :
    ∃ m : ℕ, Decimal.signed (max n 0) = Decimal.digits m := by
  have hnonneg : ¬max n 0 < 0 := by omega
  exact ⟨_, if_neg hnonneg⟩

section Cookies

variable (hname : ';' ∉ name.toList) (hpath : ';' ∉ path.toList)
  (hdomain : ∀ domain ∈ settings.cookieDomain, ';' ∉ domain.toList)
include hname hpath hdomain

theorem freeOfSemicolons_clear :
    FreeOfSemicolons settings name "" path "Thu, 01 Jan 1970 00:00:00 GMT" :=
  ⟨hname, by decide, hpath, by decide, hdomain⟩

theorem freeOfSemicolons_set (hvalue : ';' ∉ value.toList) (expires : Instant) :
    FreeOfSemicolons settings name value path (String.ofList (Stamp.cookieDate expires)) where
  name := hname
  value := hvalue
  path := hpath
  expires := by
    rw [String.toList_ofList]
    exact semicolon_not_mem_cookieDate expires
  domain := hdomain

/-- A cookie is cleared by the text that is written for it. -/
theorem clears (hequals : '=' ∉ name.toList) (hvalue : ';' ∉ value.toList) (expires now : Instant) :
    Clears (clear settings name path) (set settings name value path expires now) := by
  have hclear := freeOfSemicolons_clear hname hpath hdomain
  have hset := freeOfSemicolons_set hname hpath hdomain hvalue expires
  rw [set, clear]
  refine ⟨?_, fun a ha => ?_, fun a ha => ?_, ?_, ?_⟩
  · rw [hclear.nameIn_compose _ hequals, hset.nameIn_compose _ hequals]
  · rw [hclear.partsIn_compose, hset.partsIn_compose, filter_listed_congr]
    · rintro rfl
      exact absurd ha (by decide)
    · rintro rfl
      exact absurd ha (by decide)
  · obtain ⟨l, hl⟩ := exists_filter_listed ha
    rw [hset.partsIn_compose, hl]
    exact ⟨_, rfl⟩
  · obtain ⟨n, hn⟩ := exists_signed_eq_digits (expires.secondsSince now)
    rw [hset.partsIn_compose, filter_listed_maxAge, hn]
    exact ⟨n, by simp [Attribute.part, Attribute.name]⟩
  · rw [hclear.partsIn_compose, filter_listed_maxAge]
    rfl

end Cookies

end Cookie

/-- Under settings that were built, with names and a domain that can be told apart in a text, each
of the two cookies is cleared by a text that names the same cookie, with the same path, domain,
security and visibility, and no seconds. The two are different cookies. Whatever is set or cleared
is kept to a secure transport if it is sent across sites or if an insecure one is not allowed. -/
theorem Draft.clearing_hits_what_was_set {draft : Draft} {settings : Settings}
    (hbuild : draft.build = .ok settings)
    (hsession : ';' ∉ settings.sessionCookie.toList ∧ '=' ∉ settings.sessionCookie.toList)
    (hrefresh : ';' ∉ settings.refreshCookie.toList ∧ '=' ∉ settings.refreshCookie.toList)
    (hdomain : ∀ domain ∈ settings.cookieDomain, ';' ∉ domain.toList)
    {token secret : String} (htoken : ';' ∉ token.toList) (hsecret : ';' ∉ secret.toList)
    (expires now expires' now' : Instant) :
    let session := Cookie.setSession settings token expires now
    let refresh := Cookie.setRefresh settings secret expires' now'
    Cookie.Clears (Cookie.clearSession settings) session ∧
      Cookie.Clears (Cookie.clearRefresh settings) refresh ∧
      Cookie.nameIn session ≠ Cookie.nameIn refresh ∧
      ∀ text ∈ [session, refresh, Cookie.clearSession settings, Cookie.clearRefresh settings],
        Cookie.KeepsSecure settings text := by
  have hroot : ';' ∉ Cookie.sessionPath.toList := by decide
  have hauth : ';' ∉ Cookie.refreshPath.toList := by decide
  have hset := Cookie.freeOfSemicolons_set hsession.1 hroot hdomain htoken expires
  have hset' := Cookie.freeOfSemicolons_set hrefresh.1 hauth hdomain hsecret expires'
  have hclear := Cookie.freeOfSemicolons_clear hsession.1 hroot hdomain
  have hclear' := Cookie.freeOfSemicolons_clear hrefresh.1 hauth hdomain
  refine ⟨Cookie.clears hsession.1 hroot hdomain hsession.2 htoken expires now,
    Cookie.clears hrefresh.1 hauth hdomain hrefresh.2 hsecret expires' now', ?_, ?_⟩
  · rw [Cookie.setSession, Cookie.setRefresh, Cookie.set, Cookie.set,
      hset.nameIn_compose _ hsession.2, hset'.nameIn_compose _ hrefresh.2]
    exact fun heq => (sound_of_build hbuild).distinct (String.toList_inj.1 heq)
  · simp only [List.forall_mem_cons]
    exact ⟨hset.keepsSecure _, hset'.keepsSecure _, hclear.keepsSecure _, hclear'.keepsSecure _,
      fun _ htext => absurd htext List.not_mem_nil⟩

namespace CrossSite

/-- Cookies for a whole domain that are sent across sites, where an insecure transport is
allowed. -/
def draft : Draft :=
  Draft.setCookieDomain
    { clientId := "client"
      signingKey := [7]
      sessionLifetime := ⟨1800 * 1000000000, by decide⟩
      refreshLifetime := ⟨604800 * 1000000000, by decide⟩
      nonceLifetime := ⟨90 * 1000000000, by decide⟩
      sameSite := .none
      allowInsecureHttp := true } " example.com "

/-- What is built of the draft. -/
def settings : Settings where
  clientId := "client"
  signingKey := [7]
  issuer := "tauth"
  cookieDomain := some "example.com"
  sessionCookie := "app_session"
  refreshCookie := "app_refresh"
  sessionLifetime := draft.sessionLifetime
  refreshLifetime := draft.refreshLifetime
  nonceLifetime := draft.nonceLifetime
  sameSite := .none
  allowInsecureHttp := true

/-- Although an insecure transport is allowed, all four texts ask for a secure one, and a value may
look like an attribute. -/
theorem cookies_are_cleared :
    draft.build = .ok settings ∧
      Cookie.Clears (Cookie.clearSession settings)
        (Cookie.setSession settings "Path=/a" Instant.epoch Instant.epoch) ∧
      Cookie.Clears (Cookie.clearRefresh settings)
        (Cookie.setRefresh settings "Max-Age=1" Instant.epoch Instant.epoch) ∧
      Cookie.nameIn (Cookie.setSession settings "Path=/a" Instant.epoch Instant.epoch) ≠
        Cookie.nameIn (Cookie.setRefresh settings "Max-Age=1" Instant.epoch Instant.epoch) ∧
      ∀ text ∈ [Cookie.setSession settings "Path=/a" Instant.epoch Instant.epoch,
          Cookie.setRefresh settings "Max-Age=1" Instant.epoch Instant.epoch,
          Cookie.clearSession settings, Cookie.clearRefresh settings],
        Cookie.KeepsSecure settings text := by
  have hbuild : draft.build = .ok settings := rfl
  exact ⟨hbuild, Draft.clearing_hits_what_was_set hbuild (by decide) (by decide) (by decide)
    (by decide) (by decide) Instant.epoch Instant.epoch Instant.epoch Instant.epoch⟩

end CrossSite

end SignIn
