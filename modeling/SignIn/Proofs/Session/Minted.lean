import SignIn.Proofs.Encoding.Base64Url
import SignIn.Proofs.Json.RoundTrip
import SignIn.Session.Token

/-!
# A minted token is read back

No part of a token holds a dot, so it falls into the three parts it was made of (`parts?_sign`), and
each of the first two says the value it was written for (`json?_part`). Hence the reader finds the
claims that were signed, unless their expiry or their start of validity is negative (`read?_sign`).

`verify_mint` says what becomes of a minted token at every instant. The start of validity lies
before the instant of issue, so it decides nothing that this instant does not.
-/

namespace SignIn

/-! ## Claims in JSON -/

namespace Claims

/-- The times are numbers of 64 bits with sign. -/
def HasTimes (c : Claims) : Prop :=
  ∀ n ∈ [c.issuedAt, c.notBefore, c.expires], -9223372036854775808 ≤ n ∧ n ≤ 9223372036854775807

variable {c : Claims}

/-- Claims are printed without fractions and without broken strings, so they can be read back. -/
theorem isPlain_toJson (h : c.HasTimes) : Json.IsPlain c.toJson := by
  have hint : ∀ n ∈ [c.issuedAt, c.notBefore, c.expires], Json.IsPlain (.int n) := by
    intro n hn
    obtain ⟨hlo, hhi⟩ := h n hn
    exact ⟨hlo, by omega⟩
  refine Json.isPlain_record fun m hm => ?_
  simp only [List.mem_cons, List.not_mem_nil, or_false] at hm
  rcases hm with rfl | rfl | rfl | rfl | rfl | rfl | rfl | rfl | rfl | rfl
  · trivial
  · trivial
  · trivial
  · trivial
  · exact Json.isPlain_strings c.roles
  · trivial
  · trivial
  · exact hint _ (by simp)
  · exact hint _ (by simp)
  · exact hint _ (by simp)

/-- The members in the order in which they are written. -/
def members (c : Claims) : List (String × Json) :=
  [("user_id", .str c.userId), ("user_email", .str c.email),
   ("user_display_name", .str c.displayName),
   ("user_avatar_url", .str c.avatarUrl), ("user_roles", .strings c.roles), ("iss", .str c.issuer),
   ("sub", .str c.subject), ("iat", .int c.issuedAt), ("nbf", .int c.notBefore),
   ("exp", .int c.expires)]

theorem record?_toJson : c.toJson.record? = some c.members := Json.record?_record c.members

/-- The members that are written are read as the claims. -/
theorem ofMembers?_members (h : c.HasTimes) : ofMembers? c.members = some c := by
  have hint : ∀ n ∈ [c.issuedAt, c.notBefore, c.expires], Json.int64? (.int n) = some n :=
    fun n hn => if_pos (h n hn)
  have hroles : Json.optional? c.members "user_roles" Json.texts? [] = some c.roles :=
    Json.texts?_strings c.roles
  have hissued : Json.required? c.members "iat" Json.int64? = some c.issuedAt :=
    hint _ (by simp)
  have hstart : Json.required? c.members "nbf" Json.int64? = some c.notBefore :=
    hint _ (by simp)
  have hexpires : Json.required? c.members "exp" Json.int64? = some c.expires :=
    hint _ (by simp)
  rw [ofMembers?, hroles, hissued, hstart, hexpires]
  rfl

end Claims

namespace SessionToken

/-! ## Parts of a token -/

/-- A part of a token is read back as the value that it was made of. -/
theorem json?_part {j : Json} (h : Json.IsPlain j) : json? (part j) = some j := by
  rw [json?, part, Base64Url.decode?_encode, Option.bind_some, Json.ofBytes?_bytes,
    Json.ofText?_toText h]

theorem isPlain_header : Json.IsPlain header :=
  Json.isPlain_record fun m hm => by
    simp only [List.mem_cons, List.not_mem_nil, or_false] at hm
    rcases hm with rfl | rfl <;> trivial

/-- The header that is written is one that is accepted. -/
theorem isAccepted_header : TokenHeader.isAccepted header = true := by decide

variable (key : Bytes) (c : Claims)

/-- A token has its parts where they are looked for. -/
theorem parts?_sign : parts? (sign key c).toList =
    some (part header, part c.toJson, signature key (message c)) := by
  have hsignature : '.' ∉ signature key (message c) := Base64Url.dot_not_mem_encode _
  have hmessage : Text.cutLast? '.' (message c) = some (part header, part c.toJson) :=
    Text.cutLast?_append _ (Base64Url.dot_not_mem_encode _)
  rw [sign, String.toList_ofList, parts?, Text.cutLast?_append _ hsignature]
  simp only [Option.bind_eq_bind, Option.bind_some, hmessage, Option.pure_def]

/-- No token is blank, for it has dots. -/
theorem allBlank_sign : Text.allBlank (sign key c) = false := by
  rw [Text.allBlank, List.all_eq_false]
  refine ⟨'.', ?_, by decide⟩
  rw [sign, String.toList_ofList]
  simp

/-! ## Reading what is signed -/

variable {key c}

/-- A payload is read as its claims, unless their expiry or their start of validity is negative. -/
theorem payload?_toJson (h : c.HasTimes) :
    payload? c.toJson = if c.notBefore < 0 ∨ c.expires < 0 then none else some c := by
  have haudience : Json.optionalFits c.members "aud" isAudience = true := rfl
  rw [payload?, Claims.record?_toJson, Option.bind_eq_bind, Option.bind_some,
    Claims.ofMembers?_members h, Option.bind_eq_bind, Option.bind_some, haudience]
  split_ifs with h₁ h₂ h₂
  · simp at h₁
    omega
  · rfl
  · rfl
  · simp at h₁
    omega

/-- A token whose parts say an accepted header and a payload, under the right signature. -/
theorem read?_of_parts {token : String} {h p : List Char} {header payload : Json}
    (hparts : parts? token.toList = some (h, p, signature key (h ++ '.' :: p)))
    (hheader : json? h = some header) (haccepted : TokenHeader.isAccepted header = true)
    (hpayload : json? p = some payload) : read? key token = payload? payload := by
  rw [read?, hparts]
  simp only [Option.bind_eq_bind, Option.bind_some, hheader, haccepted, beq_self_eq_true,
    Bool.and_self, if_true, hpayload]

/-- The claims of a signed token are those that were signed. -/
theorem read?_sign (h : c.HasTimes) :
    read? key (sign key c) = if c.notBefore < 0 ∨ c.expires < 0 then none else some c := by
  rw [read?_of_parts (parts?_sign key c) (json?_part isPlain_header) isAccepted_header
    (json?_part (Claims.isPlain_toJson h)), payload?_toJson h]

/-- What becomes of signed claims at an instant. -/
theorem verify_sign (h : c.HasTimes) (issuer : String) (t : Instant) :
    verify key issuer t (sign key c) =
      if c.notBefore < 0 ∨ c.expires < 0 then .error .invalidToken
      else if c.issuer ≠ issuer then .error .invalidIssuer
      else if c.expires ≤ t.seconds then .error .expired
      else if t.seconds < c.notBefore ∨ t.seconds < c.issuedAt then .error .notYetValid
      else .ok c := by
  rw [verify, allBlank_sign, if_neg Bool.false_ne_true, read?_sign h]
  by_cases hneg : c.notBefore < 0 ∨ c.expires < 0
  · rw [if_pos hneg, if_pos hneg]
  · rw [if_neg hneg, if_neg hneg]

/-! ## Minting -/

/-- The seconds of the calendar have room in the numbers of a token. -/
theorem seconds_bounds (t : Instant) : -8334601228800 ≤ t.seconds ∧ t.seconds < 8210266876800 := by
  have hlo := t.not_before
  have hhi := t.not_after
  rw [Instant.seconds]
  omega

/-- The times of a session lie within the calendar, or just before it. -/
theorem hasTimes_claims (profile : Profile) (issuer : String) (now expires : Instant) :
    (claims profile issuer now expires).HasTimes := by
  have hnow := seconds_bounds now
  have hexpires := seconds_bounds expires
  intro n hn
  simp only [claims, skew, List.mem_cons, List.not_mem_nil, or_false] at hn
  omega

variable {profile : Profile} {issuer : String} {now expires : Instant} {lifetime : Span}

/-- With a user, a key and an expiry in the calendar, a token is minted. -/
theorem mint_eq (huser : Text.allBlank profile.userId = false) (hkey : key ≠ [])
    (hexpires : now.add? lifetime = some expires) :
    mint profile issuer key now lifetime =
      .ok (some ⟨sign key (claims profile issuer now expires), expires⟩) := by
  have hempty : ¬key.isEmpty = true := by simpa using hkey
  rw [mint, huser, if_neg Bool.false_ne_true, if_neg hempty, hexpires]
  rfl

/-- Minting and verifying agree. For a user id that is not blank, a key and an expiry within the
calendar there is a token. Under the same key and issuer it is unreadable at every instant when the
time before its issue or its expiry is negative ; else it has expired from the second of expiry on,
is not yet valid before the second of issue, and has all it was minted with in between. Another
issuer is refused at every instant. -/
theorem verify_mint (huser : Text.allBlank profile.userId = false) (hkey : key ≠ [])
    (hexpires : now.add? lifetime = some expires) :
    ∃ token, mint profile issuer key now lifetime = .ok (some ⟨token, expires⟩) ∧
      (∀ t : Instant, verify key issuer t token =
        if now.seconds - 30 < 0 ∨ expires.seconds < 0 then .error .invalidToken
        else if expires.seconds ≤ t.seconds then .error .expired
        else if t.seconds < now.seconds then .error .notYetValid
        else .ok
          { userId := profile.userId
            email := profile.email
            displayName := profile.displayName
            avatarUrl := profile.avatarUrl
            roles := profile.roles
            issuer := issuer
            subject := profile.userId
            issuedAt := now.seconds
            notBefore := now.seconds - 30
            expires := expires.seconds }) ∧
      ∀ (other : String) (t : Instant), other ≠ issuer → 0 ≤ now.seconds - 30 →
        0 ≤ expires.seconds → verify key other t token = .error .invalidIssuer := by
  have htimes := hasTimes_claims profile issuer now expires
  refine ⟨_, mint_eq huser hkey hexpires, fun t => ?_, fun other t hother hstart hexpiry => ?_⟩
  · rw [verify_sign htimes]
    simp only [claims, skew, ne_eq, not_true_eq_false, if_false]
    have hlate :
        (t.seconds < now.seconds - 30 ∨ t.seconds < now.seconds) ↔ t.seconds < now.seconds := by
      omega
    simp only [hlate]
  · rw [verify_sign htimes, if_neg (by simp only [claims, skew]; omega),
      if_pos (by simpa [claims] using hother.symm)]

/-- A user whose name needs escapes. -/
def ada : Profile := ⟨"U_123", "ada@example.com", "Ada \"the\tCountess\" é", "", ["user", "admin"]⟩

/-- Noon of 1 March 2024. -/
def noon : Instant := ⟨1709294400 * 1000000000, by decide, by decide⟩

/-- A quarter of an hour later. -/
def quarterPast : Instant := ⟨1709295300 * 1000000000, by decide, by decide⟩

theorem verify_mint_ada :
    ∃ token, mint ada "tauth" [1, 2, 3] noon ⟨900 * 1000000000, by decide⟩ =
        .ok (some ⟨token, quarterPast⟩) ∧
      verify [1, 2, 3] "tauth" noon token = .ok (claims ada "tauth" noon quarterPast) ∧
      verify [1, 2, 3] "tauth" quarterPast token = .error .expired ∧
      verify [1, 2, 3] "tauth" Instant.epoch token = .error .notYetValid ∧
      verify [1, 2, 3] "other" noon token = .error .invalidIssuer := by
  obtain ⟨token, hmint, hverify, hother⟩ := verify_mint
    (by decide : Text.allBlank ada.userId = false) (by decide : ([1, 2, 3] : Bytes) ≠ [])
    (rfl : noon.add? ⟨900 * 1000000000, by decide⟩ = some quarterPast)
  refine ⟨token, hmint, ?_, ?_, ?_, hother _ _ (by decide) (by decide) (by decide)⟩
  · rw [hverify]
    rfl
  · rw [hverify]
    rfl
  · rw [hverify]
    rfl

end SessionToken

end SignIn
