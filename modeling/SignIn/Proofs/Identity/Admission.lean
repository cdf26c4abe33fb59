import SignIn.Identity.Binding
import SignIn.Identity.Provider
import SignIn.Proofs.Json.Members
import SignIn.Proofs.Text.Decimal
import SignIn.Service.Failure

/-!
# Which identities get in

An ID token lets an identity in when the endpoint vouches for it and the identity is bound to the
nonce (`letIn`). Each stage is turned round on its own : what a member says that is read as a text,
a whole number or true (`textMember_eq_iff`, `int64Member?_eq_some_iff`, `flagMember_iff`), when the
claims of an answer are taken (`claims_eq_ok_iff`) and when claims are bound
(`IdentityClaims.bind_eq_ok_iff`). Together they say all that an answer has to say for an identity
(`Vouches`).

An exchange is of one of three kinds (`ofExchange_cases`) : it tells a JSON value, it is of no use,
or the endpoint has refused the token. Only one of no use is a fault of the infrastructure
(`who_gets_in`).
-/

namespace SignIn

theorem Text.sameIgnoringCase_iff {s t : String} :
    sameIgnoringCase s t = true ↔ lower s = lower t := by
  simp [sameIgnoringCase, lower, String.ofList_inj]

/-! ## Binding -/

/-- A claimed nonce matches as it is or by its fingerprint, and never when one of the two is
empty. -/
theorem nonceMatches_iff {claimed nonce : String} : nonceMatches claimed nonce = true ↔
    claimed ≠ "" ∧ nonce ≠ "" ∧ (claimed = nonce ∨ claimed = fingerprint nonce) := by
  simp [nonceMatches, and_assoc]

/-- Claims are bound if they keep every rule. -/
theorem IdentityClaims.bind_eq_ok_iff {claims : IdentityClaims} {nonce : String}
    {identity : BoundIdentity} : claims.bind nonce = .ok identity ↔
      claims.issuer ∈ acceptedIssuers ∧
      (claims.subject ≠ "" ∧ claims.email ≠ "" ∧ claims.emailVerified = true) ∧
      nonceMatches claims.nonce nonce = true ∧
      identity = ⟨claims.subject, claims.email, claims.displayName, claims.avatarUrl⟩ := by
  unfold IdentityClaims.bind
  split_ifs with hissuer hidentity hnonce
  · exact ⟨nofun, fun h => by simp [h.1] at hissuer⟩
  · exact ⟨nofun, fun h => by simp [h.2.1] at hidentity⟩
  · exact ⟨nofun, fun h => by simp [h.2.2.1] at hnonce⟩
  · constructor
    · intro h
      refine ⟨by simpa using hissuer, ?_, by simpa using hnonce, (Except.ok.inj h).symm⟩
      simpa [and_assoc] using hidentity
    · rintro ⟨-, -, -, rfl⟩
      rfl

theorem ne_empty_of_mem_acceptedIssuers {issuer : String} (h : issuer ∈ acceptedIssuers) :
    issuer ≠ "" := by
  rintro rfl
  simp [acceptedIssuers] at h

/-! ## Members -/

namespace Json

/-- The value is a whole number or the text of one. -/
inductive SaysWhole : Json → Int → Prop
  | int {n : Int} : SaysWhole (.int n) n
  | text {s : String} {n : Int} (writes : Decimal.Writes s.toList n) : SaysWhole (.str s) n

/-- The value is true or the text of it in any case. -/
inductive SaysTrue : Json → Prop
  | bool : SaysTrue (.bool true)
  | text {s : String} (same : Text.lower s = "true") : SaysTrue (.str s)

theorem int64?_int (n : Int) : (Json.int n).int64? = (some n).filter Decimal.inInt64 := by
  simp [int64?, Decimal.inInt64, Option.filter]

end Json

namespace TokenInfo

open Json (SaysWhole SaysTrue)

variable {j j' : Json} {name s : String} {n : Int}

/-- A text that is not empty is that of the member. -/
theorem textMember_eq_iff (hs : s ≠ "") :
    textMember j name = s ↔ j.member? name = some (.str s) := by
  unfold textMember
  cases hmember : j.member? name with
  | none => simp [hs.symm]
  | some k =>
    cases htext : k.text? with
    | some s' =>
      obtain rfl := Json.text?_eq_some_iff.1 htext
      simp [htext]
    | none =>
      have hk : k ≠ .str s := by
        rintro rfl
        cases htext
      simp [htext, hk, hs.symm]

/-- A member is read as a number if and only if it says one that fits, as a number or as text. -/
theorem int64Member?_eq_some_iff : int64Member? j name = some n ↔
    ∃ k, j.member? name = some k ∧ k.SaysWhole n ∧ Decimal.inInt64 n = true := by
  unfold int64Member?
  split
  · rename_i s hmember
    simp only [hmember, Decimal.int64?_eq_some_iff, Option.some_inj]
    constructor
    · rintro ⟨hwrites, hn⟩
      exact ⟨_, rfl, .text hwrites, hn⟩
    · rintro ⟨_, rfl, hsays, hn⟩
      cases hsays with
      | text writes => exact ⟨writes, hn⟩
  · rename_i k hstr hmember
    rw [hmember, Json.int64?_eq_some_iff]
    constructor
    · rintro ⟨rfl, hn⟩
      exact ⟨_, rfl, .int, by simpa [Decimal.inInt64] using hn⟩
    · rintro ⟨k, hk, hsays, hn⟩
      obtain rfl := Option.some.inj hk
      cases hsays with
      | int => exact ⟨rfl, by simpa [Decimal.inInt64] using hn⟩
      | text writes => exact absurd rfl (hstr _)
  · rename_i hmember
    simp [hmember]

theorem lower_true : Text.lower "true" = "true" := by decide

/-- A member is read as a yes if and only if it says true, as a truth value or as text. -/
theorem flagMember_iff : flagMember j name = true ↔ ∃ k, j.member? name = some k ∧ k.SaysTrue := by
  unfold flagMember
  split
  · rename_i b hmember
    rw [hmember]
    constructor
    · rintro rfl
      exact ⟨_, rfl, .bool⟩
    · rintro ⟨k, hk, hsays⟩
      obtain rfl := Option.some.inj hk
      cases hsays
      rfl
  · rename_i s hmember
    rw [hmember, Text.sameIgnoringCase_iff, lower_true]
    constructor
    · exact fun h => ⟨_, rfl, .text h⟩
    · rintro ⟨k, hk, hsays⟩
      obtain rfl := Option.some.inj hk
      cases hsays with
      | text same => exact same
  · rename_i hbool hstr
    refine ⟨nofun, ?_⟩
    rintro ⟨k, hk, hsays⟩
    cases hsays with
    | bool => exact absurd hk (hbool true)
    | text same => exact absurd hk (hstr _)

/-! ## Answers -/

/-- The JSON value of a body, none if the body is no JSON. For a reader that keeps the whole value
this is so as well of a number out of range, of a string that denotes no text and of more than 127
levels. -/
def kept? (body : Bytes) : Option Json := (Json.ofBytes? body).filter Json.isSound

/-- The claims that the members say. -/
def said (j : Json) : IdentityClaims where
  issuer := textMember j "iss"
  subject := textMember j "sub"
  email := textMember j "email"
  emailVerified := flagMember j "email_verified"
  displayName := textMember j "name"
  avatarUrl := textMember j "picture"
  nonce := textMember j "nonce"

/-- Claims are taken over if and only if the audience and the expiry are right, and they are what
the answer says. -/
theorem claims_eq_ok_iff {audience : String} {now : Int} {c : IdentityClaims} :
    claims j audience now = .ok c ↔
      (j.member? "aud" = some (.str audience) ∧ audience ≠ "") ∧
      (∃ expires, int64Member? j "exp" = some expires ∧ now < expires) ∧ c = said j := by
  unfold claims
  dsimp only
  split_ifs with hnone hwrong
  · refine ⟨nofun, fun ⟨⟨haud, hne⟩, _⟩ => ?_⟩
    exact absurd (((textMember_eq_iff hne).2 haud).symm.trans hnone) hne
  · refine ⟨nofun, fun ⟨⟨haud, hne⟩, _⟩ => ?_⟩
    exact absurd ((textMember_eq_iff hne).2 haud) hwrong
  · have haud : textMember j "aud" = audience := not_not.1 hwrong
    have hne : audience ≠ "" := fun h => hnone (haud.trans h)
    have hmember := (textMember_eq_iff hne).1 haud
    cases hexp : int64Member? j "exp" with
    | none => simp
    | some expires =>
      by_cases hle : expires ≤ now
      · simp [hle, Int.not_lt.2 hle]
      · simp [hle, hmember, hne, said, Int.not_le.1 hle, eq_comm]

/-- Claims that are read but not taken over are rejected, whatever is wrong with them. -/
theorem exists_rejected_of_claims {audience : String} {now : Int} {e : IdentityError}
    (h : claims j audience now = .error e) : ∃ cause, e = .rejected cause := by
  unfold claims at h
  dsimp only at h
  split_ifs at h
  · cases h
    exact ⟨_, rfl⟩
  · cases h
    exact ⟨_, rfl⟩
  · split at h
    · cases h
      exact ⟨_, rfl⟩
    · split_ifs at h
      cases h
      exact ⟨_, rfl⟩

/-- The endpoint has answered with success and a JSON value. -/
inductive Told : Exchange → Json → Prop
  | intro {status : ℕ} {body : Bytes} {j : Json} (success : 200 ≤ status ∧ status < 300)
      (json : kept? body = some j) : Told (.answered status body) j

/-- There was no answer, its status says neither success nor a fault of the client, or it is no
JSON. -/
inductive Useless : Exchange → Prop
  | unanswered : Useless .unanswered
  | status {status : ℕ} {body : Bytes} (success : ¬(200 ≤ status ∧ status < 300))
      (client : ¬(400 ≤ status ∧ status < 500)) : Useless (.answered status body)
  | unreadable {status : ℕ} {body : Bytes} (success : 200 ≤ status ∧ status < 300)
      (json : kept? body = none) : Useless (.answered status body)

/-- An answer that can be used is not useless. -/
theorem Told.not_useless {e : Exchange} (h : Told e j) : ¬Useless e := by
  cases h with
  | intro success json =>
    intro h
    cases h with
    | status not_success client => exact not_success success
    | unreadable success none => cases json.symm.trans none

/-- An exchange tells one thing. -/
theorem Told.unique {e : Exchange} (h : Told e j) (h' : Told e j') : j = j' := by
  cases h with
  | intro success json =>
    cases h' with
    | intro success' json' => exact Option.some.inj (json.symm.trans json')

/-- All that an exchange can be. -/
theorem ofExchange_cases (e : Exchange) (audience : String) (now : Instant) :
    (∃ j, Told e j ∧ ofExchange e audience now = claims j audience now.seconds) ∨
    (Useless e ∧ ∃ cause, ofExchange e audience now = .error (.unavailable cause)) ∨
    ((∀ j, ¬Told e j) ∧ ¬Useless e ∧
      ∃ cause, ofExchange e audience now = .error (.rejected cause)) := by
  cases e with
  | unanswered => exact Or.inr (Or.inl ⟨.unanswered, _, rfl⟩)
  | answered status body =>
    unfold ofExchange
    dsimp only
    split_ifs with hclient hother
    · refine Or.inr (Or.inr ⟨?_, ?_, _, rfl⟩)
      · rintro j ⟨success, -⟩
        omega
      · rintro (_ | ⟨-, client⟩ | ⟨success, -⟩)
        · exact client hclient
        · omega
    · exact Or.inr (Or.inl ⟨.status (by omega) hclient, _, rfl⟩)
    · have success : 200 ≤ status ∧ status < 300 := by omega
      cases hj : kept? body with
      | none =>
        refine Or.inr (Or.inl ⟨.unreadable success hj, .unreadable, ?_⟩)
        rw [show (Json.ofBytes? body).filter Json.isSound = none from hj]
      | some j =>
        refine Or.inl ⟨j, .intro success hj, ?_⟩
        rw [show (Json.ofBytes? body).filter Json.isSound = some j from hj]

/-- The request for an ID token that is not blank. -/
def query (idToken : String) : String := "/tokeninfo?id_token=" ++ FormUrl.encode idToken

/-- A blank token is rejected unasked, and any other is asked about once. -/
theorem ask_eq {fetch : String → Exchange} {now : Instant} {idToken audience : String} :
    ask fetch now idToken audience =
      if Text.allBlank idToken then .error (.rejected .emptyToken)
      else ofExchange (fetch (query idToken)) audience now := by
  unfold ask target?
  split_ifs <;> rfl

/-! ## Admission -/

/-- The identity that an ID token lets in for an audience, an instant and a nonce. -/
def letIn (fetch : String → Exchange) (now : Instant) (idToken audience nonce : String) :
    Except AuthFailure BoundIdentity :=
  ((Provider.asking fetch now idToken audience).mapError AuthFailure.identity).bind fun claims =>
    (claims.bind nonce).mapError AuthFailure.binding

/-- All that a JSON value has to say for an identity. -/
structure Vouches (j : Json) (audience nonce : String) (now : Int) (identity : BoundIdentity) :
    Prop where
  audience : j.member? "aud" = some (.str audience) ∧ audience ≠ ""
  expiry : ∃ k expires, j.member? "exp" = some k ∧ k.SaysWhole expires ∧
    Decimal.inInt64 expires = true ∧ now < expires
  issuer : ∃ issuer ∈ acceptedIssuers, j.member? "iss" = some (.str issuer)
  subject : j.member? "sub" = some (.str identity.subject) ∧ identity.subject ≠ ""
  email : j.member? "email" = some (.str identity.email) ∧ identity.email ≠ ""
  verified : ∃ k, j.member? "email_verified" = some k ∧ k.SaysTrue
  nonce : ∃ claimed, j.member? "nonce" = some (.str claimed) ∧ claimed ≠ "" ∧ nonce ≠ "" ∧
    (claimed = nonce ∨ claimed = fingerprint nonce)
  displayName : identity.displayName = textMember j "name"
  avatarUrl : identity.avatarUrl = textMember j "picture"

/-- To vouch for an identity is to have claims that bind it to the nonce. -/
theorem vouches_iff {audience nonce : String} {now : Int} {identity : BoundIdentity} :
    Vouches j audience nonce now identity ↔
      ∃ c, claims j audience now = .ok c ∧ c.bind nonce = .ok identity := by
  simp only [claims_eq_ok_iff, IdentityClaims.bind_eq_ok_iff]
  constructor
  · intro h
    obtain ⟨k, expires, hk, hsays, hrange, hlater⟩ := h.expiry
    obtain ⟨issuer, hmem, hissuer⟩ := h.issuer
    obtain ⟨claimed, hclaimed, hne, hnonce⟩ := h.nonce
    have hiss := (textMember_eq_iff (ne_empty_of_mem_acceptedIssuers hmem)).2 hissuer
    have hsub := (textMember_eq_iff h.subject.2).2 h.subject.1
    have hemail := (textMember_eq_iff h.email.2).2 h.email.1
    have hclaim := (textMember_eq_iff hne).2 hclaimed
    refine ⟨said j, ⟨h.audience, ⟨expires, ?_, hlater⟩, rfl⟩, ?_,
      ⟨?_, ?_, flagMember_iff.2 h.verified⟩, ?_, ?_⟩
    · exact int64Member?_eq_some_iff.2 ⟨k, hk, hsays, hrange⟩
    · rwa [said, hiss]
    · rw [said, hsub]
      exact h.subject.2
    · rw [said, hemail]
      exact h.email.2
    · rw [said, hclaim]
      exact nonceMatches_iff.2 ⟨hne, hnonce⟩
    · rw [said, hsub, hemail, ← h.displayName, ← h.avatarUrl]
  · rintro ⟨c, ⟨haud, ⟨expires, hexp, hlater⟩, rfl⟩, hissuer, ⟨hsub, hemail, hverified⟩, hnonce,
      rfl⟩
    obtain ⟨k, hk, hsays, hrange⟩ := int64Member?_eq_some_iff.1 hexp
    obtain ⟨hne, hnonce⟩ := nonceMatches_iff.1 hnonce
    exact
      { audience := haud
        expiry := ⟨k, expires, hk, hsays, hrange, hlater⟩
        issuer := ⟨_, hissuer, (textMember_eq_iff (ne_empty_of_mem_acceptedIssuers hissuer)).1 rfl⟩
        subject := ⟨(textMember_eq_iff hsub).1 rfl, hsub⟩
        email := ⟨(textMember_eq_iff hemail).1 rfl, hemail⟩
        verified := flagMember_iff.1 hverified
        nonce := ⟨_, (textMember_eq_iff hne).1 rfl, hne, hnonce⟩
        displayName := rfl
        avatarUrl := rfl }

/-- Two answers that say the same, but the expiry of one is a number and that of the other its
decimal text, or the email of one is verified by true or false and that of the other by the text of
it. -/
structure Respelled (j j' : Json) : Prop where
  expiry : j'.member? "exp" = j.member? "exp" ∨ ∃ n, j.member? "exp" = some (.int n) ∧
    j'.member? "exp" = some (.str (String.ofList (Decimal.signed n)))
  verified : j'.member? "email_verified" = j.member? "email_verified" ∨ ∃ (b : Bool) (s : String),
    j.member? "email_verified" = some (.bool b) ∧ j'.member? "email_verified" = some (.str s) ∧
      Text.lower s = if b then "true" else "false"
  rest : ∀ name, name ≠ "exp" → name ≠ "email_verified" → j'.member? name = j.member? name

theorem Respelled.textMember_eq (h : Respelled j j') (hexp : name ≠ "exp")
    (hverified : name ≠ "email_verified") : textMember j' name = textMember j name := by
  rw [textMember, textMember, h.rest name hexp hverified]

theorem Respelled.int64Member?_eq (h : Respelled j j') :
    int64Member? j' "exp" = int64Member? j "exp" := by
  obtain hexp | ⟨n, hn, hs⟩ := h.expiry
  · rw [int64Member?, int64Member?, hexp]
  · simp [int64Member?, hn, hs, Decimal.int64?_signed, Json.int64?_int]

theorem Respelled.flagMember_eq (h : Respelled j j') :
    flagMember j' "email_verified" = flagMember j "email_verified" := by
  obtain hverified | ⟨b, s, hb, hs, hlower⟩ := h.verified
  · rw [flagMember, flagMember, hverified]
  · rw [Bool.eq_iff_iff]
    simp only [flagMember, hb, hs, Text.sameIgnoringCase_iff, hlower, lower_true]
    cases b <;> decide

/-- No spelling of the expiry and of the verified flag changes the claims. -/
theorem Respelled.claims_eq (h : Respelled j j') (audience : String) (now : Int) :
    claims j' audience now = claims j audience now := by
  unfold claims
  rw [h.int64Member?_eq, h.flagMember_eq]
  simp (disch := decide) only [h.textMember_eq]

variable {fetch : String → Exchange} {now : Instant} {idToken audience nonce : String}

/-- What was told decides about the claims. -/
theorem ofExchange_of_told {e : Exchange} (h : Told e j) :
    ofExchange e audience now = claims j audience now.seconds := by
  obtain ⟨j', h', he⟩ | ⟨huseless, -⟩ | ⟨hnone, -⟩ := ofExchange_cases e audience now
  · rw [he, h.unique h']
  · exact absurd huseless h.not_useless
  · exact absurd h (hnone j)

/-- There are claims if and only if the token is not blank and the provider has told them. -/
theorem ask_eq_ok_iff {c : IdentityClaims} : ask fetch now idToken audience = .ok c ↔
    Text.allBlank idToken = false ∧
      ∃ j, Told (fetch (query idToken)) j ∧ claims j audience now.seconds = .ok c := by
  rw [ask_eq]
  split_ifs with hblank
  · simp [hblank]
  obtain ⟨j, hj, he⟩ | ⟨huseless, cause, he⟩ | ⟨hnone, -, cause, he⟩ :=
    ofExchange_cases (fetch (query idToken)) audience now
  · rw [he]
    refine ⟨fun h => ⟨by simpa using hblank, j, hj, h⟩, ?_⟩
    rintro ⟨-, j', hj', h⟩
    rwa [hj.unique hj']
  · rw [he]
    exact ⟨nofun, fun ⟨_, j, hj, _⟩ => absurd huseless hj.not_useless⟩
  · rw [he]
    exact ⟨nofun, fun ⟨_, j, hj, _⟩ => absurd hj (hnone j)⟩

/-- The provider is unavailable if and only if it was asked and the exchange is useless. -/
theorem ask_eq_unavailable_iff (fetch : String → Exchange) (now : Instant)
    (idToken audience : String) :
    (∃ cause, ask fetch now idToken audience = .error (.unavailable cause)) ↔
      Text.allBlank idToken = false ∧ Useless (fetch (query idToken)) := by
  rw [ask_eq]
  split_ifs with hblank
  · simp [hblank]
  have hblank : Text.allBlank idToken = false := by simpa using hblank
  obtain ⟨j, hj, he⟩ | ⟨huseless, hcause⟩ | ⟨-, huseless, cause, he⟩ :=
    ofExchange_cases (fetch (query idToken)) audience now
  · refine ⟨fun ⟨cause, h⟩ => ?_, fun h => absurd h.2 hj.not_useless⟩
    obtain ⟨cause', h'⟩ := exists_rejected_of_claims (he.symm.trans h)
    cases h'
  · exact ⟨fun _ => ⟨hblank, huseless⟩, fun _ => hcause⟩
  · rw [he]
    exact ⟨nofun, fun h => absurd h.2 huseless⟩

/-- A refusal is that of the endpoint or that of the rules for the nonce. -/
theorem letIn_cases (fetch : String → Exchange) (now : Instant) (idToken audience nonce : String) :
    (∃ e, ask fetch now idToken audience = .error e ∧
      letIn fetch now idToken audience nonce = .error (.identity e)) ∨
    (∃ c e, ask fetch now idToken audience = .ok c ∧ c.bind nonce = .error e ∧
      letIn fetch now idToken audience nonce = .error (.binding e)) ∨
    ∃ c identity, ask fetch now idToken audience = .ok c ∧ c.bind nonce = .ok identity ∧
      letIn fetch now idToken audience nonce = .ok identity := by
  unfold letIn Provider.asking
  cases hask : ask fetch now idToken audience with
  | error e => exact Or.inl ⟨e, rfl, rfl⟩
  | ok c =>
    cases hbind : c.bind nonce with
    | error e =>
      exact Or.inr (Or.inl ⟨c, e, rfl, hbind, by simp [Except.mapError, Except.bind, hbind]⟩)
    | ok identity =>
      exact Or.inr (Or.inr ⟨c, identity, rfl, hbind, by simp [Except.mapError, Except.bind, hbind]⟩)

/-- An ID token lets an identity in exactly if it is not blank and the endpoint has answered with
success and a JSON value that says all there is to say for the identity. Without a usable answer the
failure is one of the infrastructure, and every other refusal is one of the client.

It does not matter whether the expiry is written as a number or as its decimal text, nor whether the
email is verified by true or false or by the text of it. -/
theorem who_gets_in (fetch : String → Exchange) (now : Instant) (idToken audience nonce : String) :
    (∀ identity, letIn fetch now idToken audience nonce = .ok identity ↔
      Text.allBlank idToken = false ∧
        ∃ j, Told (fetch (query idToken)) j ∧ Vouches j audience nonce now.seconds identity) ∧
    ((∃ cause, letIn fetch now idToken audience nonce = .error (.identity (.unavailable cause))) ↔
      Text.allBlank idToken = false ∧ Useless (fetch (query idToken))) ∧
    (∀ failure, letIn fetch now idToken audience nonce = .error failure →
      (∃ cause, failure = .identity (.unavailable cause)) ∧ failure.toApi.kind.status = 500 ∨
        (∀ cause, failure ≠ .identity (.unavailable cause)) ∧ failure.toApi.kind.status = 401) ∧
    ∀ fetch' j j', Told (fetch (query idToken)) j → Told (fetch' (query idToken)) j' →
      Respelled j j' →
      letIn fetch' now idToken audience nonce = letIn fetch now idToken audience nonce := by
  refine ⟨fun identity => ?_, ?_, fun failure hfailure => ?_,
    fun fetch' j j' hj hj' hrespelled => ?_⟩
  · have hvouches : (Text.allBlank idToken = false ∧
        ∃ j, Told (fetch (query idToken)) j ∧ Vouches j audience nonce now.seconds identity) ↔
          ∃ c, ask fetch now idToken audience = .ok c ∧ c.bind nonce = .ok identity := by
      simp only [ask_eq_ok_iff, vouches_iff]
      constructor
      · rintro ⟨hblank, j, hj, c, hc, hbind⟩
        exact ⟨c, ⟨hblank, j, hj, hc⟩, hbind⟩
      · rintro ⟨c, ⟨hblank, j, hj, hc⟩, hbind⟩
        exact ⟨hblank, j, hj, c, hc, hbind⟩
    rw [hvouches]
    obtain ⟨e, hask, h⟩ | ⟨c, e, hask, hbind, h⟩ | ⟨c, i, hask, hbind, h⟩ :=
      letIn_cases fetch now idToken audience nonce
    · simp [h, hask]
    · simp [h, hask, hbind]
    · simp [h, hask, hbind]
  · rw [← ask_eq_unavailable_iff fetch now idToken audience]
    obtain ⟨e, hask, h⟩ | ⟨c, e, hask, -, h⟩ | ⟨c, i, hask, -, h⟩ :=
      letIn_cases fetch now idToken audience nonce
    · simp [h, hask]
    · simp [h, hask]
    · simp [h, hask]
  · obtain ⟨e, -, h⟩ | ⟨c, e, -, -, h⟩ | ⟨c, i, -, -, h⟩ :=
      letIn_cases fetch now idToken audience nonce
    · obtain rfl := Except.error.inj (h.symm.trans hfailure)
      cases e with
      | rejected cause => exact Or.inr ⟨nofun, rfl⟩
      | unavailable cause => exact Or.inl ⟨⟨cause, rfl⟩, rfl⟩
    · obtain rfl := Except.error.inj (h.symm.trans hfailure)
      exact Or.inr ⟨nofun, rfl⟩
    · cases h.symm.trans hfailure
  · have hask : ask fetch' now idToken audience = ask fetch now idToken audience := by
      rw [ask_eq, ask_eq, ofExchange_of_told hj, ofExchange_of_told hj', hrespelled.claims_eq]
    rw [letIn, letIn, Provider.asking, Provider.asking, hask]

end TokenInfo

end SignIn
