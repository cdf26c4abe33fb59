import Mathlib.Data.Set.Function
import SignIn.Proofs.Refresh.Lookups
import SignIn.Proofs.Service.Ancestry
import SignIn.Proofs.Users.Calls

/-!
# Footprints

Whatever is stored stands in places : a nonce in one, a user under its subject and under its id, a
refresh record under its id and under its hash (`Place`). The answer to a question depends on few of
them, besides the setting and the random bytes (`World.touches`), and changes no others
(`World.content_of_answer`). So two worlds that are alike where a question touches them answer it
alike and stay alike there (`World.Alike.answer`).

With nonces this is not so at first sight. To use one throws out all that have expired, and whether
a nonce is refused as unknown or as expired depends on who came before. But an expired nonce is as
good as none (`NonceStore.live`), and no request tells the two refusals apart (`Call.Same`).
-/

namespace SignIn

/-! ## Nonces -/

namespace NonceStore

variable {s : NonceStore} {now : Instant}

/-- The expiry of a nonce that can still be used. -/
def live (s : NonceStore) (now : Instant) (n : String) : Option Instant :=
  (s.entries.get? n).filter fun expires => decide (now ≤ expires)

/-- A nonce is accepted if and only if it has an expiry that has not passed. -/
theorem isOk_judge (now : Instant) (o : Option Instant) :
    (judge now o).isOk = (o.filter fun expires => decide (now ≤ expires)).isSome := by
  cases o with
  | none => rfl
  | some expires =>
    have hlt : expires < now ↔ ¬now ≤ expires := Int.not_le.symm
    rw [judge]
    by_cases h : now ≤ expires
    · rw [if_neg (mt hlt.1 (not_not.2 h))]
      simp [h, Except.isOk, Except.toBool]
    · rw [if_pos (hlt.2 h)]
      simp [h, Except.isOk, Except.toBool]

theorem distinct_consume (h : s.entries.Distinct) (now : Instant) (n : String) :
    (s.consume now n).2.entries.Distinct :=
  (h.erase n).keep _

theorem distinct_issue (h : s.entries.Distinct) (now : Instant) (n : String) :
    (s.issue now n).2.entries.Distinct := by
  cases hadd : now.add? s.lifetime with
  | none =>
    rw [issue_of_none hadd]
    exact h.keep _
  | some expires =>
    rw [issue_of_some hadd]
    exact Dict.distinct_insert (h.keep _) n expires

/-- Using a nonce takes this one out and leaves all the others that are live. -/
theorem live_consume (h : s.entries.Distinct) (n m : String) :
    (s.consume now n).2.live now m = if m = n then none else s.live now m := by
  simp only [live, consume, purge, take, Dict.get?_keep (h.erase n), Dict.get?_erase]
  split_ifs with hm
  · rfl
  · simp

end NonceStore

/-! ## Places -/

/-- Where something is stored. -/
inductive Place where
  | nonce (nonce : String)
  | subject (subject : String)
  | user (userId : String)
  | token (tokenId : String)
  | hash (hash : String)

/-- What is stored in a place. -/
inductive Content where
  /-- The expiry of a nonce that can still be used. -/
  | nonce (expires : Option Instant)
  | subject (profile : Option Profile)
  | user (profile : Except UserError Profile)
  | record (record : Option RefreshRecord)

/-- The same answer, but for the reason why a nonce is refused. -/
def Call.Same : (c : Call) → c.Reply → c.Reply → Prop
  | .consumeNonce _ => fun (r r' : Except NonceError Unit) => r.isOk = r'.isOk
  | _ => fun r r' => r = r'

theorem Call.Same.refl : ∀ {c : Call} (r : c.Reply), c.Same r r
  | .consumeNonce _, _ => rfl
  | .readClock, _ | .issueNonce, _ | .verifyIdentity _ _, _ | .upsertUser _, _ | .userProfile _, _
  | .issueRefresh _ _ _, _ | .validateRefresh _, _ | .revokeRefresh _, _ | .count _, _ | .log _, _
  | .halt, _ => rfl

namespace World

variable {u v w w' : World} {c : Call} {r : c.Reply} {x : Place}

/-- What is stored in the places of a world. -/
def content (w : World) : Place → Content
  | .nonce n => .nonce (w.nonces.live w.clock n)
  | .subject subject => .subject (w.users.known subject)
  | .user id => .user (w.users.profile id)
  | .token id => .record (w.refreshTokens.get? id)
  | .hash hash => .record (w.refreshTokens.find? hash)

/-- The places that the answer to a question depends on. -/
def touches (w : World) : Call → Set Place
  | .consumeNonce n => {.nonce n}
  | .upsertUser d => {.subject d.subject, .user (w.users.idOf w.entropy d.subject)}
  | .userProfile id => {.user id}
  | .issueRefresh _ _ _ =>
    let issued := (IssuedRefresh.draw w.clock w.entropy).1
    {.token issued.tokenId, .hash (fingerprint issued.secret)}
  | .validateRefresh secret => {.hash (fingerprint secret)}
  | .revokeRefresh id =>
    {x | x = .token id ∨ ∃ r, w.refreshTokens.get? id = some r ∧ x = .hash r.tokenHash}
  | _ => ∅

/-- The places that the answer to a question may change. -/
def writes (w : World) : Call → Set Place
  | .userProfile _ | .validateRefresh _ => ∅
  | c => w.touches c

/-- What a question writes in, it touches. -/
theorem writes_subset (w : World) (c : Call) : w.writes c ⊆ w.touches c := by
  cases c with
  | userProfile | validateRefresh => exact Set.empty_subset _
  | readClock | issueNonce | consumeNonce | verifyIdentity | upsertUser | issueRefresh
  | revokeRefresh | count | log | halt => exact subset_rfl

/-- What no answer changes. -/
structure Setting where
  clock : Instant
  provider : Provider
  faults : Faults
  counting : Bool
  users : Backend
  refreshTokens : Backend

/-- The setting of a world. -/
def setting (w : World) : Setting :=
  ⟨w.clock, w.provider, w.faults, w.counting, w.users.backend, w.refreshTokens.backend⟩

/-- The stores are as the calls on them leave them. -/
structure Sound (w : World) : Prop where
  nonces : w.nonces.entries.Distinct
  users : w.users.Sound
  keyed : w.users.Keyed
  refreshTokens : w.refreshTokens.Sound

theorem serve_of_answer (ha : World.answer c w = some (r, w')) (hf : w.faults = {}) :
    serve c w = some (r, w') :=
  answer_of_faultless hf c ▸ ha

theorem refreshTokens_of_answer (h : w.refreshTokens.Sound)
    (ha : World.answer c w = some (r, w')) :
    w'.refreshTokens.Sound ∧ w'.refreshTokens.backend = w.refreshTokens.backend := by
  rcases step_of_answer ha with ⟨now, e, -, hstep⟩ | ⟨-, hsame⟩
  · have he := RefreshStore.effect_of_step h hstep
    exact ⟨he.sound h, he.backend_eq⟩
  · rw [hsame]
    exact ⟨h, rfl⟩

/-- What an answer does not change at all, and what it leaves as the stores leave it. -/
theorem kept_of_answer (h : w.Sound) (ha : World.answer c w = some (r, w')) :
    w'.nonces.entries.Distinct ∧ w'.users.Sound ∧ w'.users.Keyed ∧
      w'.users.backend = w.users.backend ∧ w'.clock = w.clock ∧ w'.provider = w.provider ∧
      w'.counting = w.counting := by
  unfold World.answer at ha
  split at ha
  · cases ha
    exact ⟨h.nonces, h.users, h.keyed, rfl, rfl, rfl, rfl⟩
  cases c with
  | issueNonce =>
    rw [serve_issueNonce] at ha
    cases ha
    exact ⟨NonceStore.distinct_issue h.nonces w.clock _, h.users, h.keyed, rfl, rfl, rfl, rfl⟩
  | consumeNonce n =>
    rw [serve_consumeNonce] at ha
    cases ha
    exact ⟨NonceStore.distinct_consume h.nonces w.clock n, h.users, h.keyed, rfl, rfl, rfl, rfl⟩
  | upsertUser d =>
    rw [serve_upsertUser] at ha
    cases ha
    exact ⟨h.nonces, (UserStore.upserted h.users w.entropy d).sound h.users,
      h.keyed.upsert h.users w.entropy d, UserStore.backend_upsert _ _ _, rfl, rfl, rfl⟩
  | count event =>
    cases ha
    split_ifs <;> exact ⟨h.nonces, h.users, h.keyed, rfl, rfl, rfl, rfl⟩
  | halt => cases ha
  | readClock | verifyIdentity | userProfile | issueRefresh | validateRefresh | revokeRefresh
  | log =>
    cases ha
    exact ⟨h.nonces, h.users, h.keyed, rfl, rfl, rfl, rfl⟩

/-- The stores stay sound. -/
theorem Sound.answer (h : w.Sound) (ha : World.answer c w = some (r, w')) : w'.Sound := by
  obtain ⟨hnonces, husers, hkeyed, -⟩ := kept_of_answer h ha
  exact ⟨hnonces, husers, hkeyed, (refreshTokens_of_answer h.refreshTokens ha).1⟩

/-- The clock, the faults and the kinds of the stores stay as they are. -/
theorem setting_of_answer (h : w.Sound) (ha : World.answer c w = some (r, w')) :
    w'.setting = w.setting := by
  obtain ⟨-, -, -, husers, hclock, hprovider, hcounting⟩ := kept_of_answer h ha
  simp only [setting, husers, hclock, hprovider, hcounting, answer_faults ha,
    (refreshTokens_of_answer h.refreshTokens ha).2]

/-! ## Reachable worlds -/

/-- The worlds that questions lead to, in any order, at any moments and with any failures, and roles
that are set from outside. -/
inductive Reached (settings : Settings) : World → Prop
  | start (b : Backend) (now : Instant) (entropy : Entropy) (counting : Bool) :
    Reached settings (World.start settings b now entropy counting)
  | moved {w : World} (h : Reached settings w) (σ : Surroundings) (faults : Faults) :
    Reached settings { w.within σ with faults := faults }
  | answered {w w' : World} {c : Call} {r : c.Reply} (h : Reached settings w)
    (ha : World.answer c w = some (r, w')) : Reached settings w'
  | rolesSet {w : World} (h : Reached settings w) (id : String) (roles : RolesText) :
    Reached settings { w with users := (w.users.setRoles id roles.text).2 }

theorem Reached.sound {settings : Settings} (h : Reached settings w) : w.Sound := by
  induction h with
  | start b now entropy counting =>
    exact ⟨Dict.distinct_empty, UserStore.sound_empty b, UserStore.keyed_empty b,
      RefreshStore.sound_empty b⟩
  | moved _ σ faults ih => exact ⟨ih.nonces, ih.users, ih.keyed, ih.refreshTokens⟩
  | answered _ ha ih => exact ih.answer ha
  | rolesSet _ id roles ih =>
    obtain ⟨hsound, hkeyed⟩ := UserStore.sound_setRoles ih.users ih.keyed id roles
    exact ⟨ih.nonces, hsound, hkeyed, ih.refreshTokens⟩

/-! ## One question -/

/-- An answer changes nothing but the places that it may write in. -/
theorem content_of_answer (h : w.Sound) (hf : w.faults = {}) (hc : c ≠ .issueNonce)
    (ha : World.answer c w = some (r, w')) (hx : x ∉ w.writes c) : w'.content x = w.content x := by
  rw [answer_of_faultless hf] at ha
  cases c with
  | issueNonce => exact absurd rfl hc
  | consumeNonce n =>
    rw [serve_consumeNonce] at ha
    cases ha
    cases x with
    | nonce m =>
      have hm : m ≠ n := fun he => hx (by rw [he]; exact rfl)
      simp only [content, NonceStore.live_consume h.nonces, if_neg hm]
    | subject | user | token | hash => rfl
  | upsertUser d =>
    rw [serve_upsertUser] at ha
    cases ha
    cases hu : (w.users.upsert w.entropy d).1 with
    | error e =>
      have hstore := UserStore.store_upsert_of_error h.users hu
      cases x <;> simp only [content, hstore]
    | ok known =>
      obtain ⟨id, roles⟩ := known
      obtain rfl := UserStore.idOf_of_upsert h.users hu
      cases x with
      | subject s =>
        have hs : s ≠ d.subject := fun he => hx (Or.inl (by rw [he]))
        simp only [content, UserStore.known_upsert h.users hu, if_neg hs]
      | user i =>
        have hi : i ≠ w.users.idOf w.entropy d.subject :=
          fun he => hx (Or.inr (by rw [he]; exact rfl))
        simp only [content, UserStore.profile_upsert h.users h.keyed hu, if_neg hi]
      | nonce | token | hash => rfl
  | issueRefresh userId expires previous =>
    rw [serve_issueRefresh] at ha
    cases ha
    by_cases hr : w.refreshTokens.Taken
        ((IssuedRefresh.draw w.clock w.entropy).1.record w.clock userId expires previous)
    · have hstore := congrArg (·.2.1) (RefreshStore.issue_of_taken _ _ _ _ _ h.refreshTokens hr)
      simp only at hstore
      cases x <;> simp only [content, hstore]
    · cases x with
      | token i =>
        have hi : i ≠ (IssuedRefresh.draw w.clock w.entropy).1.tokenId :=
          fun he => hx (Or.inl (by rw [he]))
        obtain ⟨s, hissue, -, -, hget⟩ := RefreshStore.issue_of_free h.refreshTokens hr
        simp only [content, hissue, hget, if_neg hi]
      | hash k =>
        have hk : k ≠ fingerprint (IssuedRefresh.draw w.clock w.entropy).1.secret :=
          fun he => hx (Or.inr (by rw [he]; exact rfl))
        simp only [content, RefreshStore.find?_issue_of_free _ _ _ _ _ h.refreshTokens hr,
          if_neg hk]
      | nonce | subject | user => rfl
  | revokeRefresh id =>
    rw [serve_revokeRefresh] at ha
    cases ha
    cases x with
    | token i =>
      have hi : i ≠ id := fun he => hx (Or.inl (by rw [he]))
      simp only [content, RefreshStore.get?_revoke h.refreshTokens]
      cases hr : w.refreshTokens.get? i with
      | none => rfl
      | some r =>
        rw [Option.map_some, RefreshStore.ended, if_neg]
        exact fun he => hi ((h.refreshTokens.tokenId_of_get? hr).symm.trans he.1)
    | hash k =>
      simp only [content, RefreshStore.find?_revoke h.refreshTokens]
      cases hr : w.refreshTokens.find? k with
      | none => rfl
      | some r =>
        obtain ⟨hget, hhash⟩ := h.refreshTokens.find?_eq_some_iff.1 hr
        rw [Option.map_some, RefreshStore.ended, if_neg]
        rintro ⟨rfl, -⟩
        exact hx (Or.inr ⟨r, hget, by rw [hhash]⟩)
    | nonce | subject | user => rfl
  | count event =>
    cases ha
    split_ifs <;> cases x <;> rfl
  | halt => cases ha
  | readClock | verifyIdentity | userProfile | validateRefresh | log =>
    cases ha
    cases x <;> rfl

/-- Nothing fails, and the stores are as the calls on them leave them. -/
structure Ready (w : World) : Prop where
  faultless : w.faults = {}
  sound : w.Sound

theorem Ready.answer (h : w.Ready) (ha : World.answer c w = some (r, w')) : w'.Ready :=
  ⟨(answer_faults ha).trans h.faultless, h.sound.answer ha⟩

/-- Two worlds that are alike in some places. -/
structure Alike (S : Set Place) (u v : World) : Prop where
  setting : u.setting = v.setting
  entropy : u.entropy = v.entropy
  content : Set.EqOn u.content v.content S

variable {u' : World}

/-- Worlds that are alike where a question touches one of them have it touch the same places. -/
theorem Alike.touches_eq (h : Alike (u.touches c) u v) : v.touches c = u.touches c := by
  have hb : u.users.backend = v.users.backend := congrArg Setting.users h.setting
  have hclock : u.clock = v.clock := congrArg Setting.clock h.setting
  cases c with
  | upsertUser d =>
    have hk : u.users.known d.subject = v.users.known d.subject :=
      Content.subject.inj (h.content (Or.inl rfl))
    rw [touches, touches, UserStore.idOf_congr hb hk, h.entropy]
  | issueRefresh => rw [touches, touches, hclock, h.entropy]
  | revokeRefresh id =>
    have hget : u.refreshTokens.get? id = v.refreshTokens.get? id :=
      Content.record.inj (h.content (Or.inl rfl))
    rw [touches, touches, hget]
  | readClock | issueNonce | consumeNonce | verifyIdentity | userProfile | validateRefresh | count
  | log | halt => rfl

theorem Alike.writes_eq (h : Alike (u.touches c) u v) : v.writes c = u.writes c := by
  have ht := h.touches_eq
  cases c with
  | userProfile | validateRefresh => rfl
  | readClock | issueNonce | consumeNonce | verifyIdentity | upsertUser | issueRefresh
  | revokeRefresh | count | log | halt => exact ht

theorem Alike.mono {S T : Set Place} (h : Alike T u v) (hST : S ⊆ T) : Alike S u v :=
  ⟨h.setting, h.entropy, h.content.mono hST⟩

/-- In worlds that are alike where a question touches them it is answered alike, and they stay alike
there. -/
theorem Alike.answer (hu : u.Ready) (hv : v.Ready) (h : Alike (u.touches c) u v)
    (hc : c ≠ .issueNonce) (ha : World.answer c u = some (r, u')) :
    ∃ r' v', World.answer c v = some (r', v') ∧ c.Same r r' ∧ Alike (u.touches c) u' v' := by
  have hset := setting_of_answer hu.sound ha
  have hb : u.users.backend = v.users.backend := congrArg Setting.users h.setting
  have hbt : u.refreshTokens.backend = v.refreshTokens.backend :=
    congrArg Setting.refreshTokens h.setting
  have hclock : u.clock = v.clock := congrArg Setting.clock h.setting
  -- it is enough to look at the answer and at the places
  suffices hgoal : ∃ r' v', serve c v = some (r', v') ∧ c.Same r r' ∧ u'.entropy = v'.entropy ∧
      Set.EqOn u'.content v'.content (u.touches c) by
    obtain ⟨r', v', hserve, hsame, he, hcontent⟩ := hgoal
    rw [← answer_of_faultless hv.faultless] at hserve
    refine ⟨r', v', hserve, hsame, ?_, he, hcontent⟩
    rw [hset, setting_of_answer hv.sound hserve, h.setting]
  rw [answer_of_faultless hu.faultless] at ha
  obtain ⟨-, hu⟩ := hu
  obtain ⟨-, hv⟩ := hv
  cases c with
  | issueNonce => exact absurd rfl hc
  | readClock =>
    cases ha
    exact ⟨_, _, rfl, hclock, h.entropy, Set.eqOn_empty _ _⟩
  | consumeNonce n =>
    rw [serve_consumeNonce] at ha
    cases ha
    have hlive : u.nonces.live u.clock n = v.nonces.live v.clock n :=
      Content.nonce.inj (h.content rfl)
    refine ⟨_, _, serve_consumeNonce v n, ?_, h.entropy, fun x hx => ?_⟩
    · change (NonceStore.judge _ _).isOk = (NonceStore.judge _ _).isOk
      rw [NonceStore.isOk_judge, NonceStore.isOk_judge]
      exact congrArg Option.isSome hlive
    · obtain rfl : x = .nonce n := hx
      simp only [World.content, NonceStore.live_consume hu.nonces,
        NonceStore.live_consume hv.nonces, if_true]
  | verifyIdentity idToken audience =>
    cases ha
    have hprovider : u.provider = v.provider := congrArg Setting.provider h.setting
    exact ⟨_, _, rfl, by rw [hclock, hprovider]; exact .refl _, h.entropy, Set.eqOn_empty _ _⟩
  | upsertUser d =>
    rw [serve_upsertUser] at ha
    cases ha
    have hk : u.users.known d.subject = v.users.known d.subject :=
      Content.subject.inj (h.content (Or.inl rfl))
    have hp : u.users.profile (u.users.idOf u.entropy d.subject) =
        v.users.profile (u.users.idOf u.entropy d.subject) :=
      Content.user.inj (h.content (Or.inr rfl))
    have hanswer := UserStore.upsert_congr hu.users hv.users hb hk hp
    obtain ⟨hknown, hprofile⟩ :=
      UserStore.upsert_alike hu.users hv.users hu.keyed hv.keyed hb hk hp
    have hserve := serve_upsertUser v d
    rw [← h.entropy] at hserve
    refine ⟨_, _, hserve, hanswer, ?_, fun x hx => ?_⟩
    · simp only [UserStore.entropy_upsert, UserStore.spare_congr hb]
    · rcases hx with rfl | rfl
      · exact congrArg Content.subject hknown
      · exact congrArg Content.user hprofile
  | userProfile id =>
    cases ha
    exact ⟨_, _, rfl, Content.user.inj (h.content rfl), h.entropy, h.content⟩
  | issueRefresh userId expires previous =>
    rw [serve_issueRefresh] at ha
    cases ha
    obtain ⟨hreply, hget, hfind⟩ := RefreshStore.issue_alike hu.refreshTokens hv.refreshTokens hbt
      u.clock u.entropy userId expires previous rfl
      (Content.record.inj (h.content (Or.inl rfl))) (Content.record.inj (h.content (Or.inr rfl)))
    have hserve := serve_issueRefresh v userId expires previous
    rw [← h.entropy, ← hclock] at hserve
    refine ⟨_, _, hserve, hreply, ?_, fun x hx => ?_⟩
    · simp only [RefreshStore.entropy_issue]
    · rcases hx with rfl | rfl
      · exact congrArg Content.record hget
      · exact congrArg Content.record hfind
  | validateRefresh secret =>
    cases ha
    have hreply := RefreshStore.validate_congr hu.refreshTokens hv.refreshTokens hbt u.clock
      (Content.record.inj (h.content rfl))
    refine ⟨_, _, rfl, ?_, h.entropy, h.content⟩
    rw [← hclock]
    exact hreply
  | revokeRefresh id =>
    rw [serve_revokeRefresh] at ha
    cases ha
    have hget : u.refreshTokens.get? id = v.refreshTokens.get? id :=
      Content.record.inj (h.content (Or.inl rfl))
    have hserve := serve_revokeRefresh v id
    rw [← hclock] at hserve
    refine ⟨_, _, hserve, ?_, h.entropy, fun x hx => ?_⟩
    · exact RefreshStore.revoke_congr hu.refreshTokens hv.refreshTokens hbt u.clock hget
    · rcases hx with rfl | ⟨r, hr, rfl⟩
      · simp only [World.content, RefreshStore.get?_revoke hu.refreshTokens,
          RefreshStore.get?_revoke hv.refreshTokens, hget]
      · have hfind : u.refreshTokens.find? r.tokenHash = v.refreshTokens.find? r.tokenHash :=
          Content.record.inj (h.content (Or.inr ⟨r, hr, rfl⟩))
        simp only [World.content, RefreshStore.find?_revoke hu.refreshTokens,
          RefreshStore.find?_revoke hv.refreshTokens, hfind]
  | count event =>
    cases ha
    refine ⟨_, _, rfl, rfl, ?_, Set.eqOn_empty _ _⟩
    split_ifs <;> exact h.entropy
  | log entry =>
    cases ha
    exact ⟨_, _, rfl, rfl, h.entropy, Set.eqOn_empty _ _⟩
  | halt => cases ha

end World

end SignIn
