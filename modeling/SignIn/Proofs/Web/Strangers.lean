import SignIn.Proofs.Refresh.Agreement
import SignIn.Proofs.Web.Arrivals
import SignIn.Proofs.Web.Lifetime

/-!
# Strangers

Two requests come to one world at one moment, each with random bytes of its own. They are strangers
if they present different nonces and concern different users, whichever of them is first
(`App.Strangers`). Then neither writes where the other touches the world (`App.Strangers.apart`),
and their order makes no difference to what they are answered and to what they leave
(`App.strangers_commute`).

The user of the second is the same after the first as before (`App.Strangers.user?_receive`), but
for one case : it may present, by chance, the very secret that was drawn for the first. Then it is
of the user of the first (`App.Written`), and no stranger.
-/

namespace SignIn

/-- The token that is drawn for the request shares neither its id nor its hash with a record. -/
def World.DrawsNew (w : World) (a : Arrival) : Prop :=
  ∀ t ∈ w.token? a, ∀ r ∈ w.refreshTokens.records,
    r.tokenId ≠ t.tokenId ∧ r.tokenHash ≠ fingerprint t.secret

instance (w : World) (a : Arrival) : Decidable (w.DrawsNew a) :=
  inferInstanceAs (Decidable (∀ t ∈ w.token? a, ∀ r ∈ w.refreshTokens.records, _ ∧ _))

/-- The tokens that are drawn for the two are new, and unlike each other. -/
structure World.FreshDraws (w : World) (a b : Arrival) : Prop where
  first : w.DrawsNew a
  second : w.DrawsNew b
  apart : ∀ t ∈ w.token? a, ∀ u ∈ w.token? b,
    t.tokenId ≠ u.tokenId ∧ fingerprint t.secret ≠ fingerprint u.secret

theorem World.FreshDraws.symm {w : World} {a b : Arrival} (h : w.FreshDraws a b) :
    w.FreshDraws b a where
  first := h.second
  second := h.first
  apart t ht u hu := ⟨(h.apart u hu t ht).1.symm, (h.apart u hu t ht).2.symm⟩

instance (w : World) (a b : Arrival) : Decidable (w.FreshDraws a b) :=
  decidable_of_iff (w.DrawsNew a ∧ w.DrawsNew b ∧ _) ⟨fun ⟨hfirst, hsecond, hapart⟩ =>
    ⟨hfirst, hsecond, hapart⟩, fun h => ⟨h.first, h.second, h.apart⟩⟩

/-- Nothing that is stored tells the two worlds apart. -/
structure World.SameStores (u v : World) : Prop where
  nonces : u.nonces = v.nonces
  known : ∀ subject, u.users.known subject = v.users.known subject
  profile : ∀ id, u.users.profile id = v.users.profile id
  refreshTokens : u.refreshTokens.records.Perm v.refreshTokens.records
  counters : u.counters = v.counters

theorem World.SameStores.of_content {u v : World} (hu : u.Ready) (hv : v.Ready)
    (hcontent : u.content = v.content) (hledger : u.ledger = v.ledger) : u.SameStores v where
  nonces := congrArg Prod.fst hledger
  known subject := Content.subject.inj (congrFun hcontent (.subject subject))
  profile id := Content.user.inj (congrFun hcontent (.user id))
  refreshTokens := RefreshStore.Agree.perm_records ⟨hu.sound.refreshTokens, hv.sound.refreshTokens,
    fun i => Content.record.inj (congrFun hcontent (.token i))⟩
  counters := congrArg Prod.snd hledger

namespace App

/-- The response to a request that is alone, if its handler comes to an end, and the world
afterwards. -/
def receive (app : App) (w : World) (a : Arrival) : Option Response × World :=
  (w.drawing a.entropy).host (app.handle a.request)

/-- The two present different nonces and concern different users. Who the second concerns is said of
the world that the first leaves. -/
structure Strangers (app : App) (w : World) (a b : Arrival) : Prop where
  nonce : ∀ n ∈ nonce? a.request, n ∉ nonce? b.request
  subject : ∀ s ∈ app.subject? w a, s ∉ app.subject? w b
  second : ∀ i ∈ app.user? w a, i ∉ app.user? (app.receive w a).2 b
  first : ∀ i ∈ app.user? w b, i ∉ app.user? (app.receive w b).2 a

theorem Strangers.symm {app : App} {w : World} {a b : Arrival} (h : app.Strangers w a b) :
    app.Strangers w b a where
  nonce n hb ha := h.nonce n ha hb
  subject s hb ha := h.subject s ha hb
  second := h.first
  first := h.second

instance (app : App) (w : World) (a b : Arrival) : Decidable (app.Strangers w a b) :=
  decidable_of_iff (_ ∧ _ ∧ _ ∧ _) ⟨fun ⟨hnonce, hsubject, hsecond, hfirst⟩ =>
    ⟨hnonce, hsubject, hsecond, hfirst⟩, fun h => ⟨h.nonce, h.subject, h.second, h.first⟩⟩

open World Operation

variable {app : App} {w : World} {a b : Arrival}

theorem ready_receive (h : w.Ready) (a : Arrival) : (app.receive w a).2.Ready :=
  (h.drawing a.entropy).host _

theorem reached_receive (h : Reached app.settings w) (a : Arrival) :
    Reached app.settings (app.receive w a).2 :=
  (h.moved ⟨w.clock, a.entropy, w.provider⟩ w.faults).host _

/-! ## What a request touches -/

/-- The places that a request may touch. -/
inductive Touched (app : App) (w : World) (a : Arrival) : Place → Prop
  | nonce {n} (presented : nonce? a.request = some n) : Touched app w a (.nonce n)
  | subject {s} (subject : app.subject? w a = some s) : Touched app w a (.subject s)
  | user {i} (user : app.user? w a = some i) : Touched app w a (.user i)
  | drawnToken {t i} (drawn : w.token? a = some t) (id : i = t.tokenId) : Touched app w a (.token i)
  | drawnHash {t k} (drawn : w.token? a = some t) (hash : k = fingerprint t.secret) :
    Touched app w a (.hash k)
  | token {r i} (presented : app.record? w a = some r) (id : i = r.tokenId) :
    Touched app w a (.token i)
  | hash {secret k} (presented : app.secret? a.request = some secret)
    (hash : k = fingerprint secret) :
    Touched app w a (.hash k)

/-- The places that a request may write in. The secret that it draws is that of its user
afterwards. -/
inductive Written (app : App) (w : World) (a : Arrival) : Place → Prop
  | nonce {n} (presented : nonce? a.request = some n) : Written app w a (.nonce n)
  | subject {s} (subject : app.subject? w a = some s) : Written app w a (.subject s)
  | user {i} (user : app.user? w a = some i) : Written app w a (.user i)
  | drawnToken {t i} (drawn : w.token? a = some t) (id : i = t.tokenId) : Written app w a (.token i)
  | drawnHash {t r k} (drawn : w.token? a = some t) (hash : k = fingerprint t.secret)
    (user : app.user? w a = some r.userId)
    (issued : (app.receive w a).2.refreshTokens.find? k = some r) : Written app w a (.hash k)
  | token {r i} (presented : app.record? w a = some r) (id : i = r.tokenId) :
    Written app w a (.token i)
  | hash {r k} (presented : app.record? w a = some r) (hash : k = r.tokenHash) :
    Written app w a (.hash k)

/-- The record that a request is about has the hash of its secret. -/
theorem record?_eq_some_iff (h : w.Sound) {r : RefreshRecord} : app.record? w a = some r ↔
    w.refreshTokens.get? r.tokenId = some r ∧
      ∃ secret, app.secret? a.request = some secret ∧ r.tokenHash = fingerprint secret := by
  rw [record?, Option.bind_eq_some_iff]
  constructor
  · rintro ⟨secret, hs, hr⟩
    obtain ⟨hget, hhash⟩ := h.refreshTokens.find?_eq_some_iff.1 hr
    exact ⟨hget, secret, hs, hhash⟩
  · rintro ⟨hget, secret, hs, hhash⟩
    exact ⟨secret, hs, h.refreshTokens.find?_eq_some_iff.2 ⟨hget, hhash⟩⟩

/-- A request writes nowhere but where it may. -/
theorem written_of_mem (h : w.Ready) (hr : a.request.IsSignIn) (hd : w.DrawsNew a) {x : Place}
    (hx : x ∈ (w.drawing a.entropy).written (app.handle a.request)) : Written app w a x := by
  obtain ⟨⟨u, c⟩, hs, hx⟩ := hx
  have hasked : Asked app w a u c := (meets_handle h.faultless h.sound hr).asks _ hs
  change x ∈ u.writes c at hx
  cases hasked with
  | readClock | verifyIdentity | userProfile | validateRefresh | count | log | halt => exact hx.elim
  | consumeNonce presented =>
    obtain rfl : x = _ := hx
    exact .nonce presented
  | upsertUser subject users entropy =>
    rcases hx with rfl | rfl
    · exact .subject subject
    · rw [users, entropy]
      exact .user (user?_of_subject subject)
  | issueRefresh user token records =>
    rcases hx with rfl | rfl
    · exact .drawnToken token rfl
    obtain ⟨r, hfind, hid⟩ := issued_of_mem_asks (h.drawing a.entropy) hs
      (by rw [records]; exact hd _ token)
    rw [← receive] at hfind
    exact .drawnHash token rfl (hid ▸ user) hfind
  | revokeRefresh presented kept =>
    rcases hx with rfl | ⟨q, hq, rfl⟩
    · exact .token presented rfl
    · obtain rfl := Option.some.inj (kept.symm.trans hq)
      exact .hash presented rfl

theorem Written.touched (h : w.Sound) {x : Place} (hx : Written app w a x) : Touched app w a x := by
  cases hx with
  | nonce hn => exact .nonce hn
  | subject hs => exact .subject hs
  | user hi => exact .user hi
  | drawnToken ht hi => exact .drawnToken ht hi
  | drawnHash ht hk => exact .drawnHash ht hk
  | token hr hi => exact .token hr hi
  | hash hr hk =>
    obtain ⟨-, secret, hs, hhash⟩ := (record?_eq_some_iff h).1 hr
    exact .hash hs (hk.trans hhash)

/-- A request touches nothing but what it may. -/
theorem touched_of_mem (h : w.Ready) (hr : a.request.IsSignIn) (hd : w.DrawsNew a) {x : Place}
    (hx : x ∈ (w.drawing a.entropy).touched (app.handle a.request)) : Touched app w a x := by
  obtain ⟨⟨u, c⟩, hs, hx⟩ := hx
  by_cases hwrites : x ∈ u.writes c
  · exact (written_of_mem h hr hd ⟨(u, c), hs, hwrites⟩).touched h.sound
  have hasked : Asked app w a u c := (meets_handle h.faultless h.sound hr).asks _ hs
  change x ∈ u.touches c at hx
  cases hasked with
  | userProfile user =>
    obtain rfl : x = _ := hx
    exact .user user
  | validateRefresh presented =>
    obtain rfl : x = _ := hx
    exact .hash presented rfl
  | readClock | consumeNonce | verifyIdentity | upsertUser | issueRefresh | revokeRefresh | count
  | log | halt => exact absurd hx hwrites

/-! ## Two requests -/

/-- The user of the second request is the same when the first has been there. -/
theorem Strangers.user?_receive (hs : app.Strangers w a b) (h : w.Ready) (hr : a.request.IsSignIn)
    (hd : w.FreshDraws a b) {i : String} (hi : app.user? w b = some i) :
    app.user? (app.receive w a).2 b = some i := by
  have hset : (app.receive w a).2.setting = w.setting := setting_host (h.drawing a.entropy).sound _
  have hclock : (app.receive w a).2.clock = w.clock := congrArg Setting.clock hset
  have hprovider : (app.receive w a).2.provider = w.provider := congrArg Setting.provider hset
  have hsubject : app.subject? (app.receive w a).2 b = app.subject? w b := by
    rw [subject?, subject?, hclock, hprovider]
  cases hb : app.subject? w b with
  | some s =>
    have hout : Place.subject s ∉ (w.drawing a.entropy).written (app.handle a.request) :=
      fun hx => by
        cases written_of_mem h hr hd.first hx with
        | subject ha => exact hs.subject s ha hb
    have hcontent := content_host (h.drawing a.entropy) (plain_handle hr) hout
    have hknown : (app.receive w a).2.users.known s = w.users.known s :=
      Content.subject.inj hcontent
    rw [user?_of_subject (hsubject.trans hb),
      UserStore.idOf_congr (congrArg Setting.users hset) hknown, ← user?_of_subject hb, hi]
  | none =>
    have hrecord : (app.record? w b).map (·.userId) = some i := by simpa [user?, hb] using hi
    obtain ⟨r, hr, rfl⟩ := Option.map_eq_some_iff.1 hrecord
    obtain ⟨hget, secret, hsecret, hhash⟩ := (record?_eq_some_iff h.sound).1 hr
    obtain ⟨r', hget', hb⟩ := becomes_host (h.drawing a.entropy).sound (app.handle a.request) hget
    have hid : r'.tokenId = r.tokenId := by rw [hb.eq_with]
    have huser : r'.userId = r.userId := by rw [hb.eq_with]
    rw [← huser]
    refine user?_of_record ((record?_eq_some_iff (ready_receive h a).sound).2 ?_)
    exact ⟨hid ▸ hget', secret, hsecret, hb.tokenHash_eq.trans hhash⟩

/-- What the first request writes the second does not touch. -/
theorem Strangers.apart (hs : app.Strangers w a b) (h : w.Ready) (ha : a.request.IsSignIn)
    (hb : b.request.IsSignIn) (hd : w.FreshDraws a b) :
    ∀ x ∈ (w.drawing a.entropy).written (app.handle a.request),
      x ∉ (w.drawing b.entropy).touched (app.handle b.request) := by
  have hmem : ∀ {y r}, app.record? w y = some r → r ∈ w.refreshTokens.records := fun hr =>
    h.sound.refreshTokens.mem_records_iff.2 ((record?_eq_some_iff h.sound).1 hr).1
  have huser : ∀ i, app.user? w a = some i → app.user? w b ≠ some i := fun i hi hj =>
    hs.second i hi (hs.user?_receive h ha hd hj)
  intro x hx hy
  replace hx := written_of_mem h ha hd.first hx
  replace hy := touched_of_mem h hb hd.second hy
  cases hx with
  | nonce hn =>
    cases hy with
    | nonce hm => exact hs.nonce _ hn hm
  | subject hx =>
    cases hy with
    | subject hy => exact hs.subject _ hx hy
  | user hi =>
    cases hy with
    | user hj => exact huser _ hi hj
  | drawnToken ht hi =>
    cases hy with
    | drawnToken hu hj => exact (hd.apart _ ht _ hu).1 (hi.symm.trans hj)
    | token hr hj => exact (hd.first _ ht _ (hmem hr)).1 (hj.symm.trans hi)
  | token hq hi =>
    cases hy with
    | drawnToken hu hj => exact (hd.second _ hu _ (hmem hq)).1 (hi.symm.trans hj)
    | token hr hj =>
      have hget := ((record?_eq_some_iff h.sound).1 hq).1
      rw [← hi, hj, ((record?_eq_some_iff h.sound).1 hr).1] at hget
      cases hget
      exact huser _ (user?_of_record hq) (user?_of_record hr)
  | drawnHash ht hk user issued =>
    cases hy with
    | drawnHash hu hk' => exact (hd.apart _ ht _ hu).2 (hk.symm.trans hk')
    | hash hsecret hk' =>
      -- it presents the secret that has just been drawn for another user
      exact hs.second _ user (user?_of_record ((record?_of_secret hsecret _).trans (hk' ▸ issued)))
  | hash hq hk =>
    cases hy with
    | drawnHash hu hk' => exact (hd.second _ hu _ (hmem hq)).2 (hk.symm.trans hk')
    | hash hsecret hk' =>
      have hrecord : app.record? w b = some _ := (record?_eq_some_iff h.sound).2
        ⟨((record?_eq_some_iff h.sound).1 hq).1, _, hsecret, hk.symm.trans hk'⟩
      exact huser _ (user?_of_record hq) (user?_of_record hrecord)

/-- Users do not interfere. Two requests of strangers, each with random bytes of its own, are
answered the same in either order, and leave the same nonces, profiles, refresh records and
counters. -/
theorem strangers_commute (app : App) {w : World} (hw : World.Reached app.settings w)
    (hf : w.faults = {}) {a b : Arrival} (ha : a.request.IsSignIn) (hb : b.request.IsSignIn)
    (hs : app.Strangers w a b) (hd : w.FreshDraws a b) :
    (app.receive (app.receive w b).2 a).1 = (app.receive w a).1 ∧
      (app.receive (app.receive w a).2 b).1 = (app.receive w b).1 ∧
      (app.receive (app.receive w a).2 b).2.SameStores (app.receive (app.receive w b).2 a).2 := by
  have h : w.Ready := ⟨hf, hw.sound⟩
  have hab := hs.apart h ha hb hd
  have hba := hs.symm.apart h hb ha hd.symm
  obtain ⟨hfirst, hsecond, hcontent, hledger⟩ :=
    h.host_comm (plain_handle ha) (plain_handle hb) hab hba
  have hready : (app.receive (app.receive w a).2 b).2.Ready := ready_receive (ready_receive h a) b
  have hready' : (app.receive (app.receive w b).2 a).2.Ready := ready_receive (ready_receive h b) a
  exact ⟨hfirst, hsecond, .of_content hready hready' hcontent hledger⟩

end App

/-! ## Two users -/

namespace TwoUsers

open SessionToken (noon)
open FirstLogin (settings)

def app : App := App.ofSettings settings

/-- The nonce that is drawn from a seed. -/
def nonce (seed : UInt64) : String :=
  Identifier.secret ((⟨[], seed⟩ : Entropy).draw Identifier.secretBytes).1

/-- An ID token is the subject that it vouches for. -/
def provider : Provider := fun _ idToken _ => .ok
  { issuer := "accounts.google.com"
    subject := idToken
    email := idToken ++ "@example.com"
    emailVerified := true
    nonce := nonce (if idToken = "ada" then 0 else 1) }

def issueNonce (seed : UInt64) : Arrival := ⟨⟨"POST", "/auth/nonce", [], []⟩, ⟨[], seed⟩⟩

def login (subject : String) (issued seed : UInt64) : Arrival where
  request :=
    { method := "POST"
      target := "/auth/google"
      headers := [("content-type", "application/json"), ("x-forwarded-proto", "https")]
      body := Utf8.bytes (Json.arr [.str subject, .str (nonce issued)]).toText }
  entropy := ⟨[], seed⟩

/-- The secret that Bob's login is issued, behind the bytes of his id. -/
def secret : String :=
  (IssuedRefresh.draw noon (((⟨[], 2⟩ : Entropy).draw Identifier.userBytes).2)).1.secret

def start : World :=
  { (World.start settings .sqlite noon ⟨[], 0⟩ true).within ⟨noon, ⟨[], 0⟩, provider⟩ with
    faults := {} }

/-- Two nonces are issued, and Bob logs in with the second. -/
def world : World :=
  (app.receive (app.receive (app.receive start (issueNonce 0)).2 (issueNonce 1)).2
    (login "bob" 1 2)).2

/-- Ada logs in with the first. -/
def ada : Arrival := login "ada" 0 3

/-- Bob refreshes. -/
def bob : Arrival where
  request := ⟨"POST", "/auth/refresh", [("cookie", "app_refresh=" ++ secret)], []⟩
  entropy := ⟨[], 4⟩

theorem reached_start : World.Reached app.settings start :=
  (World.Reached.start .sqlite noon ⟨[], 0⟩ true).moved ⟨noon, ⟨[], 0⟩, provider⟩ {}

theorem reached_world : World.Reached app.settings world := by
  have hfirst := App.reached_receive reached_start (issueNonce 0)
  have hsecond := App.reached_receive hfirst (issueNonce 1)
  rw [world]
  exact App.reached_receive hsecond (login "bob" 1 2)

theorem ready_world : world.Ready := by
  have hstart : start.Ready := ⟨rfl, reached_start.sound⟩
  have hfirst : (app.receive start (issueNonce 0)).2.Ready := App.ready_receive hstart _
  have hsecond : (app.receive _ (issueNonce 1)).2.Ready := App.ready_receive hfirst _
  rw [world]
  exact App.ready_receive hsecond (login "bob" 1 2)

theorem strangers : app.Strangers world ada bob ∧ world.FreshDraws ada bob ∧
    app.user? world ada ≠ none ∧ app.user? world bob ≠ none := by
  decide +kernel

/-- It makes no difference to Ada's login and to Bob's refresh which of them is first. -/
theorem ada_and_bob_commute :
    World.Reached app.settings world ∧ world.faults = {} ∧ ada.request.IsSignIn ∧
      bob.request.IsSignIn ∧ app.Strangers world ada bob ∧ world.FreshDraws ada bob ∧
      app.user? world ada ≠ none ∧ app.user? world bob ≠ none ∧
      (app.receive (app.receive world bob).2 ada).1 = (app.receive world ada).1 ∧
      (app.receive (app.receive world ada).2 bob).1 = (app.receive world bob).1 ∧
      (app.receive (app.receive world ada).2 bob).2.SameStores
        (app.receive (app.receive world bob).2 ada).2 := by
  have hada : ada.request.IsSignIn := ⟨.login, by decide, by decide⟩
  have hbob : bob.request.IsSignIn := ⟨.refresh, by decide, by decide⟩
  obtain ⟨hstrangers, hdraws, huserA, huserB⟩ := strangers
  exact ⟨reached_world, ready_world.faultless, hada, hbob, hstrangers, hdraws, huserA, huserB,
    app.strangers_commute reached_world ready_world.faultless hada hbob hstrangers hdraws⟩

end TwoUsers

end SignIn
