import SignIn.Proofs.Service.Footprint

/-!
# Operations that commute

An operation touches what its questions touch (`World.touched`) and writes where they write
(`World.written`). What holds of one question holds of all : an operation changes nothing but where
it writes (`World.content_host`), and it runs alike in worlds that are alike where it touches them
(`World.Alike.host`). So if neither of two operations writes where the other touches the world,
neither notices the other, and they leave the same behind in either order (`World.Ready.host_comm`).

The nonce store is more than its places, since it also holds nonces that have expired, and a counter
is no place at all : every operation may count. These are the `ledger` of a world. What a question
enters there does not depend on its answer, and two entries can change places (`Call.enter`).

All this is about operations that are `Plain`. None that issues a nonce is : the nonces are listed
in the order of their issue.
-/

namespace SignIn

/-- The operation issues no nonce and cannot tell why one cannot be used. -/
def Operation.Plain {α : Type} : Operation α → Prop
  | .done _ => True
  | .ask c next => c ≠ .issueNonce ∧ (∀ r r', c.Same r r' → next r = next r') ∧ ∀ r, Plain (next r)

namespace World

variable {u v w w' : World} {c : Call} {r : c.Reply} {α β : Type}

/-! ## A run -/

/-- Runs an operation until it is done or a question has no answer : what it ends with, if it is
done, and the world that it leaves. -/
def host : World → Operation α → Option α × World
  | w, .done a => (some a, w)
  | w, .ask c next =>
    match World.answer c w with
    | some (r, w') => w'.host (next r)
    | none => (none, w)

/-- An operation alone is done or not, and leaves this world if it is. -/
theorem perform_eq_host : ∀ (w : World) (p : Operation α),
    w.perform p = (w.host p).1.map fun a => (a, (w.host p).2)
  | _, .done _ => rfl
  | w, .ask c next => by
    rw [perform, Script.run?, host]
    cases World.answer c w with
    | none => rfl
    | some a => exact perform_eq_host a.2 (next a.1)

/-- The questions of an operation that are answered, each with the world that it meets. -/
def asks : World → Operation α → List (World × Call)
  | _, .done _ => []
  | w, .ask c next =>
    match World.answer c w with
    | some (r, w') => (w, c) :: w'.asks (next r)
    | none => []

/-- The places that an operation depends on. -/
def touched (w : World) (p : Operation α) : Set Place := {x | ∃ s ∈ w.asks p, x ∈ s.1.touches s.2}

/-- The places that an operation may change. -/
def written (w : World) (p : Operation α) : Set Place := {x | ∃ s ∈ w.asks p, x ∈ s.1.writes s.2}

/-- The questions of an operation. -/
def calls (w : World) (p : Operation α) : List Call := (w.asks p).map (·.2)

section Ask

variable {next : c.Reply → Operation α}

theorem host_ask (ha : World.answer c w = some (r, w')) :
    w.host (.ask c next) = w'.host (next r) := by
  simp only [host, ha]

theorem asks_ask (ha : World.answer c w = some (r, w')) :
    w.asks (.ask c next) = (w, c) :: w'.asks (next r) := by
  simp only [asks, ha]

/-- An operation touches what its first question touches and what the rest touches in the world
behind it. -/
theorem touched_ask (ha : World.answer c w = some (r, w')) :
    w.touched (.ask c next) = w.touches c ∪ w'.touched (next r) := by
  ext x
  simp [touched, asks_ask ha]

theorem written_ask (ha : World.answer c w = some (r, w')) :
    w.written (.ask c next) = w.writes c ∪ w'.written (next r) := by
  ext x
  simp [written, asks_ask ha]

end Ask

theorem written_subset (w : World) (p : Operation α) : w.written p ⊆ w.touched p :=
  fun _ ⟨s, hs, hx⟩ => ⟨s, hs, s.1.writes_subset s.2 hx⟩

/-! ## What a run asks -/

section Meets

variable {P : World → Call → Prop} {Q : α → World → Prop}

/-- Each question of the operation is in `P`, with the world that it meets, and it ends in `Q`, if
it does. -/
def Meets (P : World → Call → Prop) (Q : α → World → Prop) : World → Operation α → Prop
  | w, .done a => Q a w
  | w, .ask c next => P w c ∧ ∀ r w', World.answer c w = some (r, w') → Meets P Q w' (next r)

/-- What holds of each question that may be asked holds of those that are. -/
theorem Meets.asks : ∀ {w : World} {p : Operation α}, Meets P Q w p → ∀ s ∈ w.asks p, P s.1 s.2
  | _, .done _, _, _, hs => absurd hs List.not_mem_nil
  | w, .ask c next, h, s, hs => by
    cases ha : World.answer c w with
    | none =>
      simp only [World.asks, ha] at hs
      exact absurd hs List.not_mem_nil
    | some a =>
      obtain ⟨r, w'⟩ := a
      rw [asks_ask ha] at hs
      rcases List.mem_cons.1 hs with rfl | hs
      · exact h.1
      · exact (h.2 r w' ha).asks s hs

theorem Meets.bind {R : β → World → Prop} {k : α → Operation β} : ∀ {w : World} {p : Operation α},
    Meets P Q w p → (∀ a w', Q a w' → Meets P R w' (k a)) → Meets P R w (p.bind k)
  | w, .done a, h, hk => hk a w h
  | _, .ask _ _, h, hk => ⟨h.1, fun r w' ha => (h.2 r w' ha).bind hk⟩

theorem Meets.andThen {ε φ : Type} {R : Except φ β → World → Prop} {reply : Except ε α}
    {failure : ε → φ} {next : α → Operation (Except φ β)}
    (hbad : ∀ e, reply = .error e → R (.error (failure e)) w)
    (hgood : ∀ a, reply = .ok a → Meets P R w (next a)) :
    Meets P R w (Script.andThen reply failure next) := by
  cases reply with
  | error e => exact hbad e rfl
  | ok a => exact hgood a rfl

/-- A property of questions that needs no world holds in any. -/
theorem Meets.of_only {O : Call → Prop} {E : α → Prop} (hP : ∀ w c, O c → P w c)
    (hQ : ∀ a w, E a → Q a w) :
    ∀ {w : World} {p : Operation α}, Operation.Only O E p → Meets P Q w p
  | w, .done a, h => hQ a w h
  | w, .ask c _, h => ⟨hP w c h.1, fun r _ _ => Meets.of_only hP hQ (h.2 r)⟩

end Meets

/-! ## What a run leaves -/

/-- What every answer preserves a run preserves. -/
theorem invariant_host {I : World → Prop}
    (hI : ∀ {w w' : World} {c : Call} {r : c.Reply}, I w → World.answer c w = some (r, w') → I w') :
    ∀ {w : World} (p : Operation α), I w → I (w.host p).2
  | _, .done _, h => h
  | w, .ask c next, h => by
    cases ha : World.answer c w with
    | none =>
      simp only [host, ha]
      exact h
    | some a =>
      rw [host_ask ha]
      exact invariant_host hI (next a.1) (hI h ha)

theorem Reached.host {settings : Settings} (h : Reached settings w) (p : Operation α) :
    Reached settings (w.host p).2 :=
  invariant_host (fun h ha => h.answered ha) p h

theorem Ready.host (h : w.Ready) (p : Operation α) : (w.host p).2.Ready :=
  invariant_host (fun h ha => h.answer ha) p h

theorem setting_host (h : w.Sound) (p : Operation α) : (w.host p).2.setting = w.setting :=
  (invariant_host (I := fun w' => w'.Sound ∧ w'.setting = w.setting)
    (fun h ha => ⟨h.1.answer ha, (setting_of_answer h.1 ha).trans h.2⟩) p ⟨h, rfl⟩).2

/-- A record that was there is there in the end, or what became of it. -/
theorem becomes_host (h : w.Sound) (p : Operation α) {i : String} {q : RefreshRecord}
    (hq : w.refreshTokens.get? i = some q) :
    ∃ q', (w.host p).2.refreshTokens.get? i = some q' ∧ q.Becomes q' := by
  refine (invariant_host (I := fun w' => w'.Sound ∧
    ∃ q', w'.refreshTokens.get? i = some q' ∧ q.Becomes q') ?_ p ⟨h, q, hq, .refl q⟩).2
  rintro w w' c r ⟨h, q₁, hq₁, hb₁⟩ ha
  obtain ⟨q₂, hq₂, hb₂⟩ := becomes_of_answer h.refreshTokens ha hq₁
  exact ⟨h.answer ha, q₂, hq₂, hb₁.trans hb₂⟩

/-- An operation changes nothing but the places that it may write in. -/
theorem content_host : ∀ {w : World} {p : Operation α}, w.Ready → p.Plain →
    Set.EqOn (w.host p).2.content w.content (w.written p)ᶜ
  | _, .done _, _, _ => Set.eqOn_refl _ _
  | w, .ask c next, h, hp => by
    obtain ⟨hc, -, hnext⟩ := hp
    cases ha : World.answer c w with
    | none =>
      simp only [host, ha]
      exact Set.eqOn_refl _ _
    | some a =>
      obtain ⟨r, w'⟩ := a
      rw [host_ask ha, written_ask ha, Set.compl_union]
      intro x hx
      rw [content_host (h.answer ha) (hnext r) hx.2]
      exact content_of_answer h.sound h.faultless hc ha hx.1

/-- In worlds that are alike where an operation touches them it ends alike, with the same questions,
and they stay alike there. -/
theorem Alike.host : ∀ {p : Operation α} {u v : World}, p.Plain → u.Ready → v.Ready →
    Alike (u.touched p) u v →
      (v.host p).1 = (u.host p).1 ∧ v.calls p = u.calls p ∧ v.written p = u.written p ∧
        Set.EqOn (v.host p).2.content (u.host p).2.content (u.touched p)
  | .done _, _, _, _, _, _, _ => ⟨rfl, rfl, rfl, fun _ ⟨_, hs, _⟩ => absurd hs List.not_mem_nil⟩
  | .ask c next, u, v, hp, hu, hv, h => by
    obtain ⟨hc, hblind, hnext⟩ := hp
    cases ha : World.answer c u with
    | none =>
      obtain rfl := eq_halt_of_answer_eq_none ha
      have hb : World.answer .halt v = none := answer_of_faultless hv.faultless _
      simp only [World.host, calls, written, touched, asks, ha, hb]
      exact ⟨trivial, trivial, by simp, fun _ ⟨_, hs, _⟩ => absurd hs List.not_mem_nil⟩
    | some a =>
      obtain ⟨r, u'⟩ := a
      rw [touched_ask ha] at h ⊢
      have htouches : Alike (u.touches c) u v := h.mono Set.subset_union_left
      obtain ⟨r', v', hb, hsame, h₁⟩ := htouches.answer hu hv hc ha
      -- outside the places of this question both worlds are as they were
      have hall : Alike (u.touches c ∪ u'.touched (next r)) u' v' := by
        refine ⟨h₁.setting, h₁.entropy, fun x hx => ?_⟩
        by_cases hxc : x ∈ u.touches c
        · exact h₁.content hxc
        · have hwrites := mt (fun hw => u.writes_subset c hw) hxc
          rw [content_of_answer hu.sound hu.faultless hc ha hwrites, h.content hx,
            content_of_answer hv.sound hv.faultless hc hb (htouches.writes_eq ▸ hwrites)]
      rw [host_ask ha, host_ask hb, calls, calls, asks_ask ha, asks_ask hb, written_ask ha,
        written_ask hb, ← hblind r r' hsame, htouches.writes_eq]
      obtain ⟨hresult, hcalls, hwritten, hcontent⟩ :=
        (hall.mono Set.subset_union_right).host (hnext r) (hu.answer ha) (hv.answer hb)
      refine ⟨hresult, congrArg (c :: ·) hcalls, congrArg (u.writes c ∪ ·) hwritten, fun x hx => ?_⟩
      by_cases hxr : x ∈ u'.touched (next r)
      · exact hcontent hxr
      · have hout := mt (fun hw => u'.written_subset _ hw) hxr
        rw [content_host (hu.answer ha) (hnext r) hout, hall.content hx,
          content_host (hv.answer hb) (hnext r) (hwritten ▸ hout)]

/-! ## Records of a run -/

/-- What a question leaves in a place of a token is there in the end, or what became of it. -/
theorem becomes_of_mem_asks : ∀ {w : World} {p : Operation α} {s : World × Call},
    w.Ready → s ∈ w.asks p → ∃ r w', World.answer s.2 s.1 = some (r, w') ∧ s.1.Ready ∧
      ∀ {i q}, w'.refreshTokens.get? i = some q →
        ∃ q', (w.host p).2.refreshTokens.get? i = some q' ∧ q.Becomes q'
  | _, .done _, _, _, hs => absurd hs List.not_mem_nil
  | w, .ask c next, s, h, hs => by
    cases ha : World.answer c w with
    | none =>
      simp only [World.asks, ha] at hs
      exact absurd hs List.not_mem_nil
    | some a =>
      obtain ⟨r, w'⟩ := a
      rw [asks_ask ha] at hs
      rw [host_ask ha]
      rcases List.mem_cons.1 hs with rfl | hs
      · exact ⟨r, w', ha, h, fun hq => becomes_host (h.answer ha).sound (next r) hq⟩
      · exact becomes_of_mem_asks (h.answer ha) hs

/-- A token that is new when it is asked for is that of its user in the end. -/
theorem issued_of_mem_asks {p : Operation α} {userId previous : String}
    {expires : Int} (h : w.Ready) (hs : (u, .issueRefresh userId expires previous) ∈ w.asks p)
    (hnew : ∀ r ∈ u.refreshTokens.records,
      r.tokenId ≠ (IssuedRefresh.draw u.clock u.entropy).1.tokenId ∧
        r.tokenHash ≠ fingerprint (IssuedRefresh.draw u.clock u.entropy).1.secret) :
    ∃ r, (w.host p).2.refreshTokens.find?
      (fingerprint (IssuedRefresh.draw u.clock u.entropy).1.secret) = some r ∧
        r.userId = userId := by
  obtain ⟨reply, u', ha, hu, hlast⟩ := becomes_of_mem_asks h hs
  replace ha := serve_of_answer ha hu.faultless
  rw [serve_issueRefresh] at ha
  cases ha
  have hfree := RefreshStore.not_taken hu.sound.refreshTokens hnew
    (r := (IssuedRefresh.draw u.clock u.entropy).1.record u.clock userId expires previous)
  obtain ⟨s, hissue, -, -, hget⟩ := RefreshStore.issue_of_free hu.sound.refreshTokens hfree
  simp only [hissue] at hlast
  obtain ⟨r, hr, hb⟩ := hlast ((hget _).trans (if_pos rfl))
  refine ⟨r, ?_, by rw [hb.eq_with]; rfl⟩
  have hfind := (h.host p).sound.refreshTokens.find?_of_get? hr
  rwa [hb.tokenHash_eq] at hfind

/-! ## What adds up -/

/-- The nonces and the counters. -/
def ledger (w : World) : NonceStore × Counters := (w.nonces, w.counters)

end World

/-- What a question adds to the nonces and the counters. -/
def Call.enter (now : Instant) (counting : Bool) (l : NonceStore × Counters) :
    Call → NonceStore × Counters
  | .consumeNonce n => ((l.1.take n).purge now, l.2)
  | .count event => (l.1, if counting then l.2.increment event else l.2)
  | _ => l

theorem NonceStore.consume_comm (s : NonceStore) (now : Instant) (n m : String) :
    (((s.take n).purge now).take m).purge now = (((s.take m).purge now).take n).purge now := by
  simp only [take, purge, Dict.erase, Dict.keep, List.filter_filter]
  congr 3
  funext e
  ac_rfl

theorem Counters.increment_comm (c : Counters) (e f : Event) :
    (c.increment e).increment f = (c.increment f).increment e := by
  funext g
  unfold increment
  split_ifs <;> rfl

instance (now : Instant) (counting : Bool) : RightCommutative (Call.enter now counting) where
  right_comm l c d := by
    cases c <;> cases d <;> simp only [Call.enter]
    · rw [NonceStore.consume_comm]
    · cases counting
      · rfl
      · simp only [if_true, Counters.increment_comm]

namespace World

variable {w w' : World} {c : Call} {r : c.Reply} {α : Type}

/-- What a question enters in the ledger is known before it is answered. -/
theorem ledger_of_answer (hf : w.faults = {}) (hc : c ≠ .issueNonce)
    (ha : World.answer c w = some (r, w')) : w'.ledger = c.enter w.clock w.counting w.ledger := by
  rw [answer_of_faultless hf] at ha
  cases c with
  | issueNonce => exact absurd rfl hc
  | count event =>
    cases ha
    rw [ledger, ledger, Call.enter]
    split_ifs <;> rfl
  | halt => cases ha
  | readClock | consumeNonce | verifyIdentity | upsertUser | userProfile | issueRefresh
  | validateRefresh | revokeRefresh | log =>
    cases ha
    rfl

/-- The nonces and the counters are given by the questions, whatever the answers. -/
theorem ledger_host : ∀ {w : World} {p : Operation α}, w.Ready → p.Plain →
    (w.host p).2.ledger = (w.calls p).foldl (Call.enter w.clock w.counting) w.ledger
  | _, .done _, _, _ => rfl
  | w, .ask c next, h, hp => by
    obtain ⟨hc, -, hnext⟩ := hp
    cases ha : World.answer c w with
    | none => simp only [host, calls, asks, ha, List.map_nil, List.foldl_nil]
    | some a =>
      obtain ⟨r, w'⟩ := a
      have hset := setting_of_answer h.sound ha
      have hclock : w'.clock = w.clock := congrArg Setting.clock hset
      have hcounting : w'.counting = w.counting := congrArg Setting.counting hset
      rw [host_ask ha, ledger_host (h.answer ha) (hnext r), ledger_of_answer h.faultless hc ha,
        calls, calls, asks_ask ha, hclock, hcounting]
      rfl

/-! ## Two operations -/

/-- The world with other random bytes to draw. -/
def drawing (w : World) (entropy : Entropy) : World := { w with entropy := entropy }

theorem Ready.drawing (h : w.Ready) (entropy : Entropy) : (w.drawing entropy).Ready :=
  ⟨h.faultless, h.sound.nonces, h.sound.users, h.sound.keyed, h.sound.refreshTokens⟩

theorem content_drawing (w : World) (entropy : Entropy) :
    (w.drawing entropy).content = w.content := by
  funext x
  cases x <;> rfl

section Two

variable {β : Type} {p : Operation α} {q : Operation β} {e f : Entropy}

/-- What an operation writes nowhere where another is touched, the other does not notice. -/
theorem Ready.alike_host (h : w.Ready) (hp : p.Plain)
    (hpq : ∀ x ∈ (w.drawing e).written p, x ∉ (w.drawing f).touched q) :
    Alike ((w.drawing f).touched q) (w.drawing f) (((w.drawing e).host p).2.drawing f) where
  setting := (setting_host (h.drawing e).sound p).symm
  entropy := rfl
  content := fun x hx => by
    rw [content_drawing, content_drawing, content_host (h.drawing e) hp, content_drawing]
    exact fun hw => hpq x hw hx

/-- Two operations enter in the ledger what they ask, one after the other. -/
theorem Ready.ledger_host_host (h : w.Ready) (hp : p.Plain) (hq : q.Plain) :
    ((((w.drawing e).host p).2.drawing f).host q).2.ledger =
      ((w.drawing e).calls p ++ (((w.drawing e).host p).2.drawing f).calls q).foldl
        (Call.enter w.clock w.counting) w.ledger := by
  have hset : ((w.drawing e).host p).2.setting = w.setting := setting_host (h.drawing e).sound p
  have hclock : ((w.drawing e).host p).2.clock = w.clock := congrArg Setting.clock hset
  have hcounting : ((w.drawing e).host p).2.counting = w.counting := congrArg Setting.counting hset
  have hsecond := ledger_host (((h.drawing e).host p).drawing f) hq
  have hfirst := ledger_host (h.drawing e) hp
  rw [hsecond, List.foldl_append]
  change List.foldl (Call.enter ((w.drawing e).host p).2.clock ((w.drawing e).host p).2.counting)
    ((w.drawing e).host p).2.ledger _ = _
  rw [hclock, hcounting, hfirst]
  rfl

/-- Two operations neither of which writes where the other is touched can change places. -/
theorem Ready.host_comm (h : w.Ready) (hp : p.Plain) (hq : q.Plain)
    (hpq : ∀ x ∈ (w.drawing e).written p, x ∉ (w.drawing f).touched q)
    (hqp : ∀ x ∈ (w.drawing f).written q, x ∉ (w.drawing e).touched p) :
    let wp := ((w.drawing e).host p).2
    let wq := ((w.drawing f).host q).2
    ((wq.drawing e).host p).1 = ((w.drawing e).host p).1 ∧
      ((wp.drawing f).host q).1 = ((w.drawing f).host q).1 ∧
      ((wp.drawing f).host q).2.content = ((wq.drawing e).host p).2.content ∧
      ((wp.drawing f).host q).2.ledger = ((wq.drawing e).host p).2.ledger := by
  intro wp wq
  have hwp : wp.Ready := (h.drawing e).host p
  have hwq : wq.Ready := (h.drawing f).host q
  obtain ⟨hresultq, hcallsq, hwrittenq, hcontentq⟩ :=
    (h.alike_host hp hpq).host hq (h.drawing f) (hwp.drawing f)
  obtain ⟨hresultp, hcallsp, hwrittenp, hcontentp⟩ :=
    (h.alike_host hq hqp).host hp (h.drawing e) (hwq.drawing e)
  refine ⟨hresultp, hresultq, ?_, ?_⟩
  · have houtq := content_host (hwp.drawing f) hq
    have houtp := content_host (hwq.drawing e) hp
    rw [hwrittenq, content_drawing] at houtq
    rw [hwrittenp, content_drawing] at houtp
    have hp₁ := content_host (h.drawing e) hp
    have hq₁ := content_host (h.drawing f) hq
    rw [content_drawing] at hp₁ hq₁
    funext x
    by_cases hxq : x ∈ (w.drawing f).written q
    · have hxp : x ∉ (w.drawing e).written p := fun hx => hpq x hx (written_subset _ _ hxq)
      rw [hcontentq (written_subset _ _ hxq), houtp hxp]
    · rw [houtq hxq]
      by_cases hxp : x ∈ (w.drawing e).written p
      · rw [hcontentp (written_subset _ _ hxp)]
      · rw [houtp hxp]
        exact (hp₁ hxp).trans (hq₁ hxq).symm
  · rw [h.ledger_host_host hp hq, h.ledger_host_host hq hp, hcallsq, hcallsp]
    exact List.Perm.foldl_eq List.perm_append_comm _

end Two

end World

end SignIn
