import SignIn.Proofs.Json.Members
import SignIn.Proofs.Session.Minted

/-!
# What an accepted token is

The readers of a token are turned round. Text that is cut at its last two dots was put together with
them (`parts?_eq_some_iff`), a part that can be decoded has no dot of its own
(`dot_not_mem_of_decode?`), and claims are read from an object if and only if its members say them
(`Claims.ofMembers?_eq_some_iff`).

So a token is accepted if and only if it can be read and its issuer and times fit
(`verify_eq_ok_iff`). What can be read does not depend on issuer or time, hence one acceptance tells
what becomes of the token, and of any other signature in its place, at every instant
(`accepted_token`).

Of the header this says that it names HS256. It may do so without being an object, and without the
algorithm being a text (`headers_need_not_be_objects`).
-/

namespace SignIn

namespace Text

/-- A text is cut at the last separator and nowhere else. -/
theorem cutLast?_eq_some_iff {sep : Char} {cs a b : List Char} :
    cutLast? sep cs = some (a, b) ↔ cs = a ++ sep :: b ∧ sep ∉ b := by
  constructor
  · intro h
    obtain ⟨⟨c, d⟩, hcut, he⟩ := Option.map_eq_some_iff.1 h
    obtain ⟨rfl, rfl⟩ := Prod.mk.inj he
    have happend := congrArg List.reverse (append_of_cut? hcut)
    refine ⟨by simpa using happend, ?_⟩
    simpa using not_mem_of_cut? hcut
  · rintro ⟨rfl, hb⟩
    exact cutLast?_append a hb

end Text

namespace Base64Url

/-- What is read as base64url digits has no dot. -/
theorem dot_not_mem_of_mapM : ∀ {cs : List Char} {ns : List Nat},
    cs.mapM digitValue? = some ns → '.' ∉ cs
  | [], _, _ => List.not_mem_nil
  | c :: cs, ns, h => by
    rw [List.mapM_cons, Option.bind_eq_bind] at h
    obtain ⟨n, hn, h⟩ := Option.bind_eq_some_iff.1 h
    obtain ⟨ms, hms, -⟩ := Option.bind_eq_some_iff.1 h
    rw [List.mem_cons, not_or]
    refine ⟨?_, dot_not_mem_of_mapM hms⟩
    rintro rfl
    cases hn

/-- A text that is read holds no dot. -/
theorem dot_not_mem_of_decode? {cs : List Char} {bs : Bytes} (h : decode? cs = some bs) :
    '.' ∉ cs := by
  obtain ⟨ns, hns, -⟩ := Option.bind_eq_some_iff.1 h
  exact dot_not_mem_of_mapM hns

end Base64Url

/-! ## Headers -/

namespace TokenHeader

/-- The value spells the algorithm HS256 : as a text, or as the name of its only member. -/
inductive SpellsHs256 : Json → Prop
  | text : SpellsHs256 (.str "HS256")
  | name : SpellsHs256 (.obj [(some "HS256", .null)])

/-- The header names the algorithm HS256 : as a member of an object, or as the second of the ten
values of a list. -/
inductive NamesHs256 : Json → Prop
  | object {ms j} (once : Json.Has ms "alg" j) (spelled : SpellsHs256 j) : NamesHs256 (.record ms)
  | list {items j} (all : items.length = 10) (second : items[1]? = some j)
    (spelled : SpellsHs256 j) :
    NamesHs256 (.arr items)

variable {j : Json}

theorem eq_null_of_isNull (h : j.isNull = true) : j = .null := by
  cases j with
  | null => rfl
  | bool | int | real | str | broken | arr | obj => cases h

/-- A value that is taken for the algorithm spells it in one of two ways. -/
theorem spellsHs256_of_isHs256 (h : isHs256 j = true) : SpellsHs256 j := by
  rcases Json.word?_eq_some_iff.1 (beq_iff_eq.1 h) with rfl | ⟨k, rfl, hk⟩
  · exact .text
  · rw [eq_null_of_isNull hk]
    exact .name

theorem namesHs256_of_hasItems {items : List Json} (h : hasItems items = true) :
    NamesHs256 (.arr items) := by
  obtain ⟨hlen, hall⟩ := Bool.and_eq_true_iff.1 h
  have hlen : items.length = 10 := beq_iff_eq.1 hlen
  refine .list hlen (List.getElem?_eq_getElem (by omega)) (spellsHs256_of_isHs256 ?_)
  have hmem : (("alg", isHs256), items[1]) ∈ members.zip items :=
    List.mem_of_getElem? (List.getElem?_zip_eq_some.2 ⟨rfl, List.getElem?_eq_getElem (by omega)⟩)
  exact List.all_eq_true.1 hall _ hmem

/-- A header that is accepted names HS256. -/
theorem namesHs256_of_isAccepted (h : isAccepted j = true) : NamesHs256 j := by
  unfold isAccepted at h
  split at h
  · exact namesHs256_of_hasItems h
  · obtain ⟨ms, hms, h⟩ := (Option.any_eq_true _ _).1 h
    rw [Json.record?_eq_some_iff.1 hms]
    obtain ⟨j, hj, hfits⟩ := Json.requiredFits_iff.1 (Bool.and_eq_true_iff.1 h).1
    exact .object hj (spellsHs256_of_isHs256 hfits)

end TokenHeader

namespace Claims

/-- The members say the claims. Each of them stands once ; the display name, the avatar and the
roles are empty when they do not stand. -/
structure SaidBy (ms : List (String × Json)) (c : Claims) : Prop where
  userId : Json.Has ms "user_id" (.str c.userId)
  email : Json.Has ms "user_email" (.str c.email)
  displayName : Json.Has ms "user_display_name" (.str c.displayName) ∨
    Json.Lacks ms "user_display_name" ∧ c.displayName = ""
  avatarUrl : Json.Has ms "user_avatar_url" (.str c.avatarUrl) ∨
    Json.Lacks ms "user_avatar_url" ∧ c.avatarUrl = ""
  roles : Json.Has ms "user_roles" (.strings c.roles) ∨ Json.Lacks ms "user_roles" ∧ c.roles = []
  issuer : Json.Has ms "iss" (.str c.issuer)
  subject : Json.Has ms "sub" (.str c.subject)
  issuedAt : Json.Has ms "iat" (.int c.issuedAt)
  notBefore : Json.Has ms "nbf" (.int c.notBefore)
  expires : Json.Has ms "exp" (.int c.expires)
  times : c.HasTimes

/-- The claims of an object are those that its members say. -/
theorem ofMembers?_eq_some_iff {ms : List (String × Json)} {c : Claims} :
    ofMembers? ms = some c ↔ c.SaidBy ms := by
  simp only [ofMembers?, Option.bind_eq_bind, Option.bind_eq_some_iff, Json.required?_eq_some_iff,
    Json.optional?_eq_some_iff, Json.text?_eq_some_iff, Json.int64?_eq_some_iff,
    Json.texts?_eq_some_iff, exists_eq_right]
  constructor
  · rintro ⟨_, huser, _, hemail, _, hdisplay, _, havatar, _, hroles, _, hissuer, _, hsubject,
      _, ⟨_, hissued, rfl, hb₁⟩, _, ⟨_, hstart, rfl, hb₂⟩, _, ⟨_, hexpires, rfl, hb₃⟩, h⟩
    obtain rfl := Option.some.inj h
    refine ⟨huser, hemail, hdisplay, havatar, hroles, hissuer, hsubject, hissued, hstart,
      hexpires, ?_⟩
    intro n hn
    simp only [List.mem_cons, List.not_mem_nil, or_false] at hn
    rcases hn with rfl | rfl | rfl
    · exact hb₁
    · exact hb₂
    · exact hb₃
  · intro h
    exact ⟨_, h.userId, _, h.email, _, h.displayName, _, h.avatarUrl, _, h.roles, _, h.issuer,
      _, h.subject, _, ⟨_, h.issuedAt, rfl, h.times _ (by simp)⟩,
      _, ⟨_, h.notBefore, rfl, h.times _ (by simp)⟩, _, ⟨_, h.expires, rfl, h.times _ (by simp)⟩,
      rfl⟩

end Claims

namespace SessionToken

variable {key : Bytes} {issuer : String} {t : Instant} {token : String} {c : Claims}

/-! ## Reading turned round -/

/-- The claims of a payload are those its members say, and the times that bound them are not
negative. -/
theorem saidBy_of_payload? {j : Json} (h : payload? j = some c) :
    ∃ ms, j = .record ms ∧ c.SaidBy ms := by
  obtain ⟨ms, hms, h⟩ := Option.bind_eq_some_iff.1 h
  obtain ⟨c', hc, h⟩ := Option.bind_eq_some_iff.1 h
  have hcc : c' = c := by
    split_ifs at h
    exact Option.some.inj h
  subst hcc
  exact ⟨ms, Json.record?_eq_some_iff.1 hms, Claims.ofMembers?_eq_some_iff.1 hc⟩

/-- A token has three parts if and only if it has two dots at least, the last two of which are the
cuts. -/
theorem parts?_eq_some_iff {cs header payload signature : List Char} :
    parts? cs = some (header, payload, signature) ↔
      cs = (header ++ '.' :: payload) ++ '.' :: signature ∧ '.' ∉ payload ∧ '.' ∉ signature := by
  constructor
  · intro h
    obtain ⟨⟨message, signature'⟩, hmessage, h⟩ := Option.bind_eq_some_iff.1 h
    obtain ⟨⟨header', payload'⟩, hheader, h⟩ := Option.bind_eq_some_iff.1 h
    obtain ⟨rfl, rfl, rfl⟩ : header' = header ∧ payload' = payload ∧ signature' = signature := by
      simpa using h
    obtain ⟨rfl, hsignature⟩ := Text.cutLast?_eq_some_iff.1 hmessage
    obtain ⟨rfl, hpayload⟩ := Text.cutLast?_eq_some_iff.1 hheader
    exact ⟨rfl, hpayload, hsignature⟩
  · rintro ⟨rfl, hpayload, hsignature⟩
    simp only [parts?, Text.cutLast?_append _ hsignature, Option.bind_eq_bind, Option.bind_some,
      Text.cutLast?_append _ hpayload, Option.pure_def]

/-- A text that is cut into three parts is not blank. -/
theorem allBlank_of_parts? {parts : List Char × List Char × List Char}
    (h : parts? token.toList = some parts) : Text.allBlank token = false := by
  obtain ⟨header, payload, signature⟩ := parts
  rw [Text.allBlank, List.all_eq_false]
  refine ⟨'.', ?_, by decide⟩
  rw [(parts?_eq_some_iff.1 h).1]
  simp

/-- A token is read only if its signature is that of its own header and payload, and both of these
can be read. -/
theorem exists_of_read? (h : read? key token = some c) :
    ∃ header payload, parts? token.toList =
        some (header, payload, signature key (header ++ '.' :: payload)) ∧
      (∃ j, json? header = some j ∧ TokenHeader.isAccepted j = true) ∧
      ∃ j, json? payload = some j ∧ payload? j = some c := by
  obtain ⟨⟨header, payload, signature'⟩, hparts, h⟩ := Option.bind_eq_some_iff.1 h
  obtain ⟨j, hheader, hclaims⟩ := Option.bind_eq_some_iff.1 h
  split_ifs at hclaims with hgood
  obtain ⟨haccepted, hsignature⟩ := Bool.and_eq_true_iff.1 hgood
  obtain rfl := beq_iff_eq.1 hsignature
  exact ⟨header, payload, hparts, ⟨j, hheader, haccepted⟩, Option.bind_eq_some_iff.1 hclaims⟩

/-- Under another signature than its own nothing is read. -/
theorem read?_of_signature_ne {header payload signature' : List Char}
    (hparts : parts? token.toList = some (header, payload, signature'))
    (hne : signature' ≠ signature key (header ++ '.' :: payload)) : read? key token = none := by
  rcases hread : read? key token with _ | c
  · rfl
  · obtain ⟨header', payload', hparts', -⟩ := exists_of_read? hread
    obtain ⟨rfl, rfl, rfl⟩ : header' = header ∧ payload' = payload ∧ _ = signature' := by
      simpa [hparts'] using hparts
    exact absurd rfl hne

/-- What becomes of claims that are read, at every instant. -/
theorem verify_of_read? (h : read? key token = some c) (issuer : String) (t : Instant) :
    verify key issuer t token =
      if c.issuer ≠ issuer then .error .invalidIssuer
      else if c.expires ≤ t.seconds then .error .expired
      else if t.seconds < max c.issuedAt c.notBefore then .error .notYetValid
      else .ok c := by
  obtain ⟨header, payload, hparts, -⟩ := exists_of_read? h
  have hearly : t.seconds < max c.issuedAt c.notBefore ↔
      t.seconds < c.notBefore ∨ t.seconds < c.issuedAt := by omega
  simp only [verify, allBlank_of_parts? hparts, if_neg Bool.false_ne_true, h, hearly]

/-- A token that is read is accepted if and only if it has the issuer, its time has come and its
time has not passed. -/
theorem verify_eq_ok_iff : verify key issuer t token = .ok c ↔
    read? key token = some c ∧ c.issuer = issuer ∧ max c.issuedAt c.notBefore ≤ t.seconds ∧
      t.seconds < c.expires := by
  constructor
  · intro h
    rcases hread : read? key token with _ | c'
    · rw [verify, hread] at h
      split_ifs at h
    · rw [verify_of_read? hread] at h
      split_ifs at h with hissuer hlate hearly
      obtain rfl := Except.ok.inj h
      exact ⟨rfl, not_not.1 hissuer, Int.not_lt.1 hearly, Int.not_le.1 hlate⟩
  · rintro ⟨hread, rfl, hearly, hlate⟩
    rw [verify_of_read? hread, if_neg (not_not.2 rfl), if_neg (Int.not_le.2 hlate),
      if_neg (Int.not_lt.2 hearly)]

/-! ## Accepted tokens -/

/-- A token that is accepted once is its header, its payload and their signature, with dots between
them and nowhere else. The header names HS256 and the payload says the claims, which are of this
issuer and good at this instant. Under any other signature the two are no token at any instant and
for any issuer, and the token itself is good throughout the seconds its claims name, too early
before them and expired after them. -/
theorem accepted_token (h : verify key issuer t token = .ok c) :
    ∃ header payload signature : List Char,
      token = String.ofList (header ++ '.' :: (payload ++ '.' :: signature)) ∧
      '.' ∉ header ∧ '.' ∉ payload ∧ '.' ∉ signature ∧
      signature = Base64Url.encode
        (Hmac.sha256 key (Utf8.bytes (String.ofList (header ++ '.' :: payload)))) ∧
      (∃ j, json? header = some j ∧ TokenHeader.NamesHs256 j) ∧
      (∃ ms, json? payload = some (.record ms) ∧ c.SaidBy ms) ∧
      c.issuer = issuer ∧ max c.issuedAt c.notBefore ≤ t.seconds ∧ t.seconds < c.expires ∧
      (∀ other : List Char, '.' ∉ other → other ≠ signature → ∀ (issuer' : String) (t' : Instant),
        verify key issuer' t' (String.ofList (header ++ '.' :: (payload ++ '.' :: other))) =
          .error .invalidToken) ∧
      ∀ t' : Instant, verify key issuer t' token =
        if c.expires ≤ t'.seconds then .error .expired
        else if t'.seconds < max c.issuedAt c.notBefore then .error .notYetValid
        else .ok c := by
  obtain ⟨hread, hissuer, hearly, hlate⟩ := verify_eq_ok_iff.1 h
  obtain ⟨header, payload, hparts, ⟨j, hheader, haccepted⟩, j', hpayload, hclaims⟩ :=
    exists_of_read? hread
  obtain ⟨ms, rfl, hsaid⟩ := saidBy_of_payload? hclaims
  obtain ⟨htoken, hdot, hdot'⟩ := parts?_eq_some_iff.1 hparts
  obtain ⟨bs, hbs, -⟩ := Option.bind_eq_some_iff.1 hheader
  have happend (cs : List Char) :
      header ++ '.' :: (payload ++ '.' :: cs) = (header ++ '.' :: payload) ++ '.' :: cs := by simp
  refine ⟨header, payload, signature key (header ++ '.' :: payload), ?_,
    Base64Url.dot_not_mem_of_decode? hbs, hdot, hdot', rfl,
    ⟨j, hheader, TokenHeader.namesHs256_of_isAccepted haccepted⟩, ⟨ms, hpayload, hsaid⟩,
    hissuer, hearly, hlate, ?_, ?_⟩
  · rw [happend, ← htoken, String.ofList_toList]
  · intro other hother hne issuer' t'
    have hcut : parts? (String.ofList (header ++ '.' :: (payload ++ '.' :: other))).toList =
        some (header, payload, other) := by
      rw [String.toList_ofList, parts?_eq_some_iff]
      exact ⟨happend other, hdot, hother⟩
    rw [verify, allBlank_of_parts? hcut, if_neg Bool.false_ne_true, read?_of_signature_ne hcut hne]
  · intro t'
    rw [verify_of_read? hread, if_neg (not_not.2 hissuer)]

/-- The token of a session that starts at noon. -/
def adasToken : String := sign [1, 2, 3] (claims ada "tauth" noon quarterPast)

theorem verify_adasToken :
    verify [1, 2, 3] "tauth" noon adasToken = .ok (claims ada "tauth" noon quarterPast) := by
  rw [adasToken, verify_sign (hasTimes_claims ada "tauth" noon quarterPast)]
  rfl

theorem accepted_adasToken :
    verify [1, 2, 3] "tauth" noon adasToken = .ok (claims ada "tauth" noon quarterPast) ∧
      (∃ header payload signature : List Char,
        adasToken = String.ofList (header ++ '.' :: (payload ++ '.' :: signature)) ∧
        ∀ other : List Char, '.' ∉ other → other ≠ signature →
          verify [1, 2, 3] "tauth" noon
              (String.ofList (header ++ '.' :: (payload ++ '.' :: other))) =
            .error .invalidToken) ∧
      verify [1, 2, 3] "tauth" quarterPast adasToken = .error .expired ∧
      verify [1, 2, 3] "tauth" Instant.epoch adasToken = .error .notYetValid := by
  obtain ⟨header, payload, signature, htoken, -, -, -, -, -, -, -, -, -, hother, htimes⟩ :=
    accepted_token verify_adasToken
  refine ⟨verify_adasToken, ⟨header, payload, signature, htoken, ?_⟩, htimes quarterPast,
    htimes .epoch⟩
  exact fun other hdot hne => hother other hdot hne "tauth" noon

/-! ## Other ways of writing a header -/

/-- The ten values of a header in order, without their names. -/
def listHeader : Json :=
  .arr [.str "JWT", .str "HS256", .null, .null, .null, .null, .null, .null, .null, .null]

/-- A header with the algorithm for a name. -/
def nameHeader : Json := .record [("alg", .record [("HS256", .null)])]

/-- The signed token of claims under any header. -/
def signUnder (header : Json) (key : Bytes) (c : Claims) : String :=
  let message := part header ++ '.' :: part c.toJson
  String.ofList (message ++ '.' :: signature key message)

/-- A token under any header has its parts where they are looked for. -/
theorem parts?_signUnder (header : Json) (key : Bytes) (c : Claims) :
    parts? (signUnder header key c).toList = some (part header, part c.toJson,
      signature key (part header ++ '.' :: part c.toJson)) := by
  rw [signUnder, String.toList_ofList, parts?_eq_some_iff]
  exact ⟨rfl, Base64Url.dot_not_mem_encode _, Base64Url.dot_not_mem_encode _⟩

/-- A header that is accepted will do in the place of the usual one. -/
theorem read?_signUnder {header : Json} (hplain : Json.IsPlain header)
    (haccepted : TokenHeader.isAccepted header = true) (h : c.HasTimes) :
    read? key (signUnder header key c) =
      if c.notBefore < 0 ∨ c.expires < 0 then none else some c := by
  rw [read?_of_parts (parts?_signUnder header key c) (json?_part hplain) haccepted
    (json?_part (Claims.isPlain_toJson h)), payload?_toJson h]

/-- However the token is cut, its header is the one it was signed under. -/
theorem json?_of_signUnder {header : Json} (hplain : Json.IsPlain header) {h p s : List Char}
    (hp : '.' ∉ p) (hs : '.' ∉ s)
    (htoken : signUnder header key c = String.ofList (h ++ '.' :: (p ++ '.' :: s))) :
    json? h = some header := by
  have hcut : parts? (signUnder header key c).toList = some (h, p, s) := by
    rw [htoken, String.toList_ofList, parts?_eq_some_iff]
    exact ⟨by simp, hp, hs⟩
  rw [parts?_signUnder] at hcut
  cases hcut
  exact json?_part hplain

theorem headers_need_not_be_objects :
    let claims := claims ada "tauth" noon quarterPast
    let listed := signUnder listHeader [1, 2, 3] claims
    let named := signUnder nameHeader [1, 2, 3] claims
    (verify [1, 2, 3] "tauth" noon listed = .ok claims ∧
      ∀ h p s : List Char, '.' ∉ p → '.' ∉ s →
        listed = String.ofList (h ++ '.' :: (p ++ '.' :: s)) →
        ∀ members, json? h ≠ some (.obj members)) ∧
    verify [1, 2, 3] "tauth" noon named = .ok claims ∧
      ∀ h p s : List Char, '.' ∉ p → '.' ∉ s →
        named = String.ofList (h ++ '.' :: (p ++ '.' :: s)) →
        ∀ header, json? h = some header → header.member? "alg" ≠ some (.str "HS256") := by
  have htimes := hasTimes_claims ada "tauth" noon quarterPast
  have hlist : Json.IsPlain listHeader := by
    simp [listHeader, Json.IsPlain, Json.ArePlain]
  have hname : Json.IsPlain nameHeader := by
    simp [nameHeader, Json.record, Json.IsPlain, Json.AreMembersPlain]
  refine ⟨⟨?_, ?_⟩, ?_, ?_⟩
  · rw [verify_of_read? (read?_signUnder hlist (by decide) htimes)]
    rfl
  · intro h p s hp hs htoken members
    rw [json?_of_signUnder hlist hp hs htoken, listHeader]
    simp
  · rw [verify_of_read? (read?_signUnder hname (by decide) htimes)]
    rfl
  · intro h p s hp hs htoken header
    rw [json?_of_signUnder hname hp hs htoken]
    intro hheader
    have hmember : nameHeader.member? "alg" = some (.record [("HS256", .null)]) := rfl
    rw [← Option.some.inj hheader, hmember, Json.record]
    simp

end SessionToken

end SignIn
