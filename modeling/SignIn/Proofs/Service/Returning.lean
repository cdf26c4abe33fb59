import SignIn.Proofs.Service.Journal
import SignIn.Proofs.Service.LoginAlone
import SignIn.Proofs.Session.Issued
import SignIn.Proofs.Settings.FromEnvironment

/-!
# Calls that return

A request cannot go on when an expiry lies outside the calendar. Within the years 1970 to 9999 this
does not happen to spans up to a bound (`Span.Fits`), and to longer ones it does in the last of
these years.

So if all lifetimes fit, a request is an operation that ends after at most eight questions, each of
which has an answer in the worlds of these years (`Operation.EndsIn`), and a caller with so many
turns of its own is done (`Pool.exists_result_of_endsIn`). If one does not fit, there is a login of
which no step fails and which does not end (`Settings.run_lastLogin`), or a nonce that cannot be
issued.
-/

namespace SignIn

/-! ## Moments and lifetimes -/

/-- The instant is in the years 1970 to 9999. -/
def Instant.Ordinary (t : Instant) : Prop := 0 ≤ t.nanos ∧ t.nanos < 253402300800 * 1000000000

/-- The last moment of the year 9999. -/
def Instant.lastOrdinary : Instant := ⟨253402300800 * 1000000000 - 1, by decide, by decide⟩

theorem Instant.nanos_lastOrdinary : lastOrdinary.nanos = 253402300800 * 1000000000 - 1 := rfl

theorem Instant.ordinary_lastOrdinary : lastOrdinary.Ordinary := by
  rw [Ordinary, nanos_lastOrdinary]
  omega

/-- From each of these years the span stays within the calendar. -/
def Span.Fits (d : Span) : Prop := d.nanos ≤ 7956864576000 * 1000000000

instance (d : Span) : Decidable d.Fits := inferInstanceAs (Decidable (d.nanos ≤ _))

theorem Span.Fits.exists_add? {d : Span} (h : d.Fits) (hd : 0 < d.nanos) {t : Instant}
    (ht : t.Ordinary) : ∃ u, t.add? d = some u := by
  unfold Fits at h
  obtain ⟨hlow, hhigh⟩ := ht
  refine ⟨_, dif_pos ?_⟩
  omega

/-- A span that is longer leads out of it from the last moment. -/
theorem Span.add?_lastOrdinary_eq_none {d : Span} (h : ¬d.Fits) :
    Instant.lastOrdinary.add? d = none := by
  unfold Fits at h
  have hlast := Instant.nanos_lastOrdinary
  refine dif_neg ?_
  omega

/-- All lifetimes stay within the calendar. -/
structure Settings.Fits (settings : Settings) : Prop where
  session : settings.sessionLifetime.Fits
  refresh : settings.refreshLifetime.Fits
  nonce : settings.nonceLifetime.Fits

/-- What is not set has a lifetime that fits. -/
example : ({} : Draft).sessionLifetime.Fits ∧ ({} : Draft).refreshLifetime.Fits ∧
    ({} : Draft).nonceLifetime.Fits := by
  decide

/-! ## Operations that end -/

namespace Operation

variable {α β : Type}

/-- The operation ends after at most `n` questions, each of which has an answer in any world in
`W`. -/
inductive EndsIn (W : World → Prop) : Nat → Operation α → Prop
  | done {n} (a : α) : EndsIn W n (.done a)
  | question {n c next} (answered : ∀ w, W w → ∃ a, World.answer c w = some a)
      (goesOn : ∀ w r w', W w → World.answer c w = some (r, w') → EndsIn W n (next r)) :
      EndsIn W (n + 1) (.ask c next)

variable {W : World → Prop} {m n : Nat}

theorem EndsIn.mono {p : Operation α} (h : EndsIn W m p) (hn : m ≤ n) : EndsIn W n p := by
  induction h generalizing n with
  | done a => exact .done a
  | question answered _ ih =>
    cases n with
    | zero => exact absurd hn (Nat.not_succ_le_zero _)
    | succ n =>
      exact .question answered fun w r w' hw ha => ih w r w' hw ha (Nat.le_of_succ_le_succ hn)

/-- One operation after the other ends after the questions of both. -/
theorem EndsIn.bind {k : α → Operation β} {p : Operation α} (h : EndsIn W m p)
    (hk : ∀ a, EndsIn W n (k a)) : EndsIn W (m + n) (p.bind k) := by
  induction h with
  | done a => exact (hk a).mono (Nat.le_add_left _ _)
  | question answered _ ih =>
    rw [Nat.succ_add]
    exact .question answered ih

/-- Turning the result into another takes no question. -/
theorem EndsIn.map {p : Operation α} (f : α → β) (h : EndsIn W m p) (hn : m ≤ n) :
    EndsIn W n (p.bind fun a => .done (f a)) :=
  (h.bind (n := 0) fun a => .done (f a)).mono hn

theorem EndsIn.andThen {ε φ : Type} {reply : Except ε β} {failure : ε → φ}
    {next : β → Operation (Except φ α)} (h : ∀ b, EndsIn W n (next b)) :
    EndsIn W n (Script.andThen reply failure next) := by
  cases reply with
  | error e => exact .done _
  | ok b => exact h b

/-- Most questions have an answer in any world. -/
theorem EndsIn.ask {c : Call} {next : c.Reply → Operation α} (hc : c.isSure = true)
    (h : ∀ r, EndsIn W n (next r)) : EndsIn W (n + 1) (.ask c next) := by
  refine .question (fun w _ => Option.ne_none_iff_exists'.1 fun ha => ?_) fun _ r _ _ _ => h r
  cases World.eq_halt_of_answer_eq_none ha
  cases hc

/-- The clock is read in a world in `W`. -/
theorem EndsIn.readClock {next : Instant → Operation α} (h : ∀ w, W w → EndsIn W n (next w.clock)) :
    EndsIn W (n + 1) (.ask .readClock next) := by
  refine .question (fun w _ => ⟨_, rfl⟩) fun w r w' hw ha => ?_
  obtain rfl : w.clock = r := congrArg Prod.fst (Option.some.inj ha)
  exact h w hw

end Operation

/-! ## Calls of the service -/

namespace World

variable {w w' : World} {c : Call} {r : c.Reply}

theorem lifetime_of_serve (h : serve c w = some (r, w')) :
    w'.nonces.lifetime = w.nonces.lifetime := by
  cases c with
  | issueNonce =>
    rw [serve_issueNonce] at h
    cases h
    exact w.nonces.lifetime_issue w.clock _
  | count event =>
    cases h
    split_ifs <;> rfl
  | halt => cases h
  | readClock | consumeNonce | verifyIdentity | upsertUser | userProfile | issueRefresh |
    validateRefresh | revokeRefresh | log => cases h; rfl

/-- The lifetime of a nonce is never changed. -/
theorem lifetime_of_answer (h : answer c w = some (r, w')) :
    w'.nonces.lifetime = w.nonces.lifetime := by
  unfold answer at h
  split at h
  · cases h
    rfl
  · exact lifetime_of_serve h

/-- The world in which a service with these settings is asked, in an ordinary year. -/
structure Hosts (settings : Settings) (w : World) : Prop where
  clock : w.clock.Ordinary
  lifetime : w.nonces.lifetime = settings.nonceLifetime

/-- A nonce is issued or refused, if its expiry can be told. -/
theorem ne_none_of_answer_issueNonce {expires : Instant} {issued : Option String}
    (hexpires : w.clock.add? w.nonces.lifetime = some expires)
    (h : answer .issueNonce w = some (.ok issued, w')) : issued ≠ none := by
  rintro rfl
  unfold answer at h
  split at h
  · rename_i hfault
    obtain ⟨e, -, he⟩ := Option.map_eq_some_iff.1 hfault
    cases Option.some.inj h
    cases he
  · rw [serve_issueNonce, NonceStore.issue_of_some hexpires] at h
    cases h

/-- There is none, if it cannot. -/
theorem exists_answer_issueNonce (hf : w.faults.nonceIssue = none)
    (h : w.clock.add? w.nonces.lifetime = none) :
    ∃ w', answer .issueNonce w = some (.ok none, w') := by
  simp only [answer, fault?, hf, serve_issueNonce, NonceStore.issue_of_none h]
  exact ⟨_, rfl⟩

end World

namespace Service

open Operation

variable {settings : Settings} (hs : settings.Sound) (hfits : settings.Fits)

include hs hfits

theorem endsIn_issueNonce : EndsIn (World.Hosts settings) 2 issueNonce := by
  refine .question (fun w _ => Option.ne_none_iff_exists'.1 fun ha => ?_) fun w reply w' hw ha => ?_
  · cases World.eq_halt_of_answer_eq_none ha
  obtain ⟨expires, hexpires⟩ := hfits.nonce.exists_add? hs.nonceLifetime hw.clock
  rcases reply with e | _ | nonce
  · exact .ask rfl fun _ => .done _
  · exact absurd rfl (World.ne_none_of_answer_issueNonce (hw.lifetime ▸ hexpires) ha)
  · exact .done _

theorem endsIn_handOut (profile : Profile) (previous : String) :
    EndsIn (World.Hosts settings) 3 (handOut settings profile previous) := by
  refine .readClock fun w hw => .readClock fun w' hw' => ?_
  obtain ⟨refreshExpires, hrefresh⟩ := hfits.refresh.exists_add? hs.refreshLifetime hw.clock
  obtain ⟨expires, hsession⟩ := hfits.session.exists_add? hs.sessionLifetime hw'.clock
  rcases w'.mint_cases settings profile with ⟨e, hmint⟩ | hmint
  · rw [hmint]
    exact .done _
  · rw [hmint, hsession, hrefresh]
    exact .ask rfl fun _ => .andThen fun issued => .done _

theorem endsIn_tryLogin (idToken nonce : String) (https : Bool) :
    EndsIn (World.Hosts settings) 6 (tryLogin settings idToken nonce https) := by
  unfold tryLogin
  dsimp only
  split_ifs
  · exact .done _
  · exact .done _
  · exact .ask rfl fun _ => .andThen fun _ => .done _
  · refine .ask rfl fun _ => .andThen fun _ => .ask rfl fun _ => .andThen fun claims =>
      .andThen fun identity => .ask rfl fun _ => .andThen fun (userId, roles) => ?_
    exact (endsIn_handOut hs hfits _ "").map _ (by omega)

theorem endsIn_login (idToken nonce : String) (https : Bool) :
    EndsIn (World.Hosts settings) 8 (login settings idToken nonce https) := by
  unfold login
  refine EndsIn.bind (m := 6) (n := 2)
    (endsIn_tryLogin hs hfits idToken nonce https) fun result => ?_
  cases result with
  | ok outcome => exact .ask rfl fun _ => .done _
  | error f => exact .ask rfl fun _ => .ask rfl fun _ => .done _

theorem endsIn_tryRefresh (cookie : Option String) :
    EndsIn (World.Hosts settings) 6 (tryRefresh settings cookie) := by
  unfold tryRefresh
  cases presented? cookie with
  | none => exact .done _
  | some secret =>
    refine .ask rfl fun _ => .andThen fun v => .ask rfl fun _ => .andThen fun profile => ?_
    refine (endsIn_handOut hs hfits profile v.tokenId).bind (n := 1) fun result => ?_
    cases result with
    | error f => exact .done _
    | ok cookies =>
      refine .ask rfl fun (reply : Except RefreshError Unit) => ?_
      rcases reply with e | u
      · dsimp only
        split_ifs <;> exact .done _
      · exact .done _

theorem endsIn_refresh (cookie : Option String) :
    EndsIn (World.Hosts settings) 8 (refresh settings cookie) := by
  unfold refresh
  refine EndsIn.bind (m := 6) (n := 2) (endsIn_tryRefresh hs hfits cookie) fun result => ?_
  cases result with
  | ok cookies => exact .ask rfl fun _ => .done _
  | error f => exact .ask rfl fun _ => .ask rfl fun _ => .done _

omit hs hfits in
theorem endsIn_revokeQuietly (secret : String) :
    EndsIn (World.Hosts settings) 3 (revokeQuietly secret) := by
  refine .ask rfl fun (reply : Except RefreshError ValidRefresh) => ?_
  rcases reply with e | current
  · exact .ask rfl fun _ => .done _
  refine .ask rfl fun (reply : Except RefreshError Unit) => ?_
  rcases reply with e | u
  · dsimp only
    split_ifs
    · exact .done _
    · exact .ask rfl fun _ => .done _
  · exact .done _

omit hs hfits in
theorem endsIn_logout (cookie : Option String) :
    EndsIn (World.Hosts settings) 4 (logout settings cookie) := by
  unfold logout
  refine EndsIn.bind (m := 3) (n := 1) ?_ fun _ => .ask rfl fun _ => .done _
  cases presented? cookie with
  | none => exact .done _
  | some secret => exact endsIn_revokeQuietly secret

/-- Every request ends after at most eight questions. -/
theorem endsIn_operation (request : ServiceRequest) :
    EndsIn (World.Hosts settings) 8 (request.operation settings) := by
  cases request with
  | issueNonce => exact (endsIn_issueNonce hs hfits).map _ (by omega)
  | login idToken nonce https => exact (endsIn_login hs hfits idToken nonce https).map _ (by omega)
  | refresh cookie => exact (endsIn_refresh hs hfits cookie).map _ (by omega)
  | logout cookie => exact (endsIn_logout cookie).map _ (by omega)

end Service

namespace Pool

open Operation

variable {settings : Settings} {p : Pool} {t : FaultyTurn} {i : Nat}

/-- The world in which a question is answered in the turn. -/
def met (p : Pool) (t : FaultyTurn) : World :=
  ({ p.world with faults := t.faults } : World).within t.turn.surroundings

theorem lifetime_faultyTurn (p : Pool) (t : FaultyTurn) :
    (p.faultyTurn t).world.nonces.lifetime = p.world.nonces.lifetime := by
  rcases turn_cases { p with world := { p.world with faults := t.faults } } t.turn with
    heq | ⟨c, next, r, w, -, ha, heq⟩
  · rw [faultyTurn, heq]
  · rw [faultyTurn, heq]
    exact (World.lifetime_of_answer ha :)

theorem result?_faultyRun {o : Outcome} (turns : List FaultyTurn) {p : Pool}
    (ho : p.result? i = some o) : (p.faultyRun turns).result? i = some o :=
  List.foldlRecOn (motive := fun p => p.result? i = some o) turns faultyTurn ho fun p hp t _ =>
    result?_turn (p := { p with world := { p.world with faults := t.faults } }) hp t.turn

/-- A caller goes on in a turn of its own, if its question has an answer. -/
theorem callers_faultyTurn {c : Call} {next : c.Reply → Operation Outcome} {r : c.Reply} {w : World}
    (hq : p.callers[t.turn.caller]? = some (.ask c next))
    (ha : World.answer c (p.met t) = some (r, w)) :
    (p.faultyTurn t).callers[t.turn.caller]? = some (next r) := by
  unfold met at ha
  simp only [faultyTurn, turn, hq, ha]
  exact List.getElem?_set_self (List.getElem?_eq_some_iff.1 hq).1

/-- A caller whose operation ends after at most `n` questions is done after `n` turns of its own. -/
theorem exists_result_of_endsIn (turns : List FaultyTurn) :
    ∀ {p : Pool} {n : Nat} {q : Operation Outcome},
      p.world.nonces.lifetime = settings.nonceLifetime →
      (∀ t ∈ turns, t.turn.surroundings.clock.Ordinary) → p.callers[i]? = some q →
      EndsIn (World.Hosts settings) n q → n ≤ turns.countP (fun t => t.turn.caller = i) →
      ∃ o, (p.faultyRun turns).result? i = some o := by
  induction turns with
  | nil =>
    intro p n q _ _ hq hends hn
    obtain rfl := Nat.le_zero.1 hn
    cases hends with
    | done o => exact ⟨o, result?_eq_some_iff.2 hq⟩
  | cons t turns ih =>
    intro p n q hlifetime hclock hq hends hn
    have hlater : (p.faultyTurn t).world.nonces.lifetime = settings.nonceLifetime :=
      (lifetime_faultyTurn p t).trans hlifetime
    obtain ⟨ht, hclock⟩ := List.forall_mem_cons.1 hclock
    by_cases hi : t.turn.caller = i
    · cases hends with
      | done o => exact ⟨o, result?_faultyRun (t :: turns) (result?_eq_some_iff.2 hq)⟩
      | question answered goesOn =>
        have hmet : World.Hosts settings (p.met t) := ⟨ht, hlifetime⟩
        obtain ⟨⟨r, w⟩, ha⟩ := answered _ hmet
        subst hi
        rw [List.countP_cons_of_pos (by simp)] at hn
        exact ih hlater hclock (callers_faultyTurn hq ha) (goesOn _ r w hmet ha)
          (Nat.le_of_succ_le_succ hn)
    · rw [List.countP_cons_of_neg (by simpa using hi)] at hn
      have hsame : (p.faultyTurn t).callers[i]? = p.callers[i]? :=
        callers_turn_of_ne (p := { p with world := { p.world with faults := t.faults } }) hi
      exact ih hlater hclock (hsame.trans hq) hends hn

end Pool

/-! ## Calls that do not return -/

namespace Settings

variable (settings : Settings)

/-- What a provider says of a user with a nonce. -/
def lastClaims : IdentityClaims where
  issuer := "accounts.google.com"
  subject := "ada"
  email := "ada@example.com"
  emailVerified := true
  nonce := "n"

/-- A login in the last moment of the year 9999, with a provider that vouches for its user. -/
def lastLogin : LoginAttempt where
  settings := settings
  world :=
    { World.start settings .memory .lastOrdinary ⟨[], 0⟩ false with
      provider := .vouching lastClaims
      nonces := ⟨settings.nonceLifetime, ⟨[("n", .lastOrdinary)]⟩⟩ }
  idToken := "token"
  nonce := "n"
  https := true

/-- The user of the login. -/
def lastUser : Profile := ⟨"google:ada", "ada@example.com", "", "", [defaultRole]⟩

theorem trim_nonce_lastLogin : Text.trim settings.lastLogin.nonce = "n" := by
  show Text.trim "n" = "n"
  rfl

theorem vouched_lastLogin : settings.lastLogin.vouched = .ok lastClaims := rfl

theorem bind_lastClaims : lastClaims.bind "n" = .ok ⟨"ada", "ada@example.com", "", ""⟩ := rfl

theorem identity?_lastLogin :
    settings.lastLogin.identity? = some ⟨"ada", "ada@example.com", "", ""⟩ := by
  rw [LoginAttempt.identity?, vouched_lastLogin, trim_nonce_lastLogin, Except.toOption,
    Option.bind_some, bind_lastClaims]
  rfl

theorem written_lastLogin : (settings.lastLogin.written ⟨"ada", "ada@example.com", "", ""⟩).1 =
    .ok ("google:ada", [defaultRole]) := rfl

theorem user?_lastLogin : ∃ users entropy, settings.lastLogin.user? = some (lastUser,
    { settings.lastLogin.consumed with users := users, entropy := entropy }) := by
  have hreply := written_lastLogin settings
  obtain ⟨users, entropy, hbehind⟩ :=
    settings.lastLogin.written_eq ⟨"ada", "ada@example.com", "", ""⟩
  exact ⟨users, entropy, LoginAttempt.user?_of_written (identity?_lastLogin settings)
    (Prod.ext hreply hbehind)⟩

variable {settings}

/-- No step of the login fails. -/
theorem failure?_lastLogin (hkey : settings.signingKey ≠ []) (s : LoginStep) :
    settings.lastLogin.failure? s = none := by
  obtain ⟨users, entropy, huser⟩ := user?_lastLogin settings
  cases s with
  | idTokenText =>
    have htoken : Text.trim "token" ≠ "" := by decide
    exact if_neg htoken
  | nonceText =>
    rw [LoginAttempt.failure?, trim_nonce_lastLogin]
    rfl
  | nonce =>
    rw [LoginAttempt.failure?, trim_nonce_lastLogin]
    exact if_pos (Int.le_refl _)
  | transport => rfl
  | identity => rfl
  | binding =>
    rw [LoginAttempt.failure?, vouched_lastLogin, trim_nonce_lastLogin, Except.toOption,
      Option.bind_some, bind_lastClaims]
    rfl
  | user =>
    rw [LoginAttempt.failure?_user (identity?_lastLogin settings), written_lastLogin]
    rfl
  | session =>
    have hid : ¬Text.allBlank lastUser.userId = true := by decide
    have hkey : ¬settings.lastLogin.settings.signingKey.isEmpty = true :=
      fun h => hkey (List.isEmpty_iff.1 h)
    rw [LoginAttempt.failure?_session huser, SessionToken.mint, if_neg hid, if_neg hkey]
    rfl
  | refreshToken =>
    rw [LoginAttempt.failure?_refreshToken huser]
    cases Instant.add? _ _ with
    | none => rfl
    | some expires => rfl

/-- It does not end, if an expiry lies outside the calendar. -/
theorem run_lastLogin (hkey : settings.signingKey ≠ [])
    (hlate : ¬settings.sessionLifetime.Fits ∨ ¬settings.refreshLifetime.Fits) :
    settings.lastLogin.run = none := by
  rcases LoginAttempt.run_cases (a := settings.lastLogin) with
    ⟨-, hrun⟩ | ⟨result, w, _, _, htried, -⟩
  · exact hrun
  have hcourse := LoginAttempt.course_tried (a := settings.lastLogin) rfl
  rw [htried] at hcourse
  cases hcourse with
  | refused first =>
    rw [LoginAttempt.first?_eq_none_iff.2 (failure?_lastLogin hkey)] at first
    cases first
  | handed entropy first bound known mint refresh tokens =>
    rcases hlate with hsession | hrefresh
    · cases (Span.add?_lastOrdinary_eq_none hsession).symm.trans (SessionToken.token_of_mint mint).1
    · cases (Span.add?_lastOrdinary_eq_none hrefresh).symm.trans refresh

/-- Where a lifetime is too long, a request of an ordinary year cannot go on. -/
theorem exists_perform_eq_none (hs : settings.Sound) (hfits : ¬settings.Fits) :
    ∃ (w : World) (request : ServiceRequest), World.Hosts settings w ∧ w.faults = {} ∧
      w.perform (request.operation settings) = none := by
  by_cases hnonce : settings.nonceLifetime.Fits
  · have hlate : ¬settings.sessionLifetime.Fits ∨ ¬settings.refreshLifetime.Fits := by
      by_contra hboth
      rw [not_or, not_not, not_not] at hboth
      exact hfits ⟨hboth.1, hboth.2, hnonce⟩
    refine ⟨settings.lastLogin.world, .login "token" "n" true, ⟨Instant.ordinary_lastOrdinary, rfl⟩,
      rfl, ?_⟩
    have hrun : settings.lastLogin.world.perform (Service.login settings "token" "n" true) = none :=
      run_lastLogin hs.signingKey hlate
    rw [ServiceRequest.operation, World.perform_bind, hrun]
    rfl
  · refine ⟨World.start settings .memory .lastOrdinary ⟨[], 0⟩ false, .issueNonce,
      ⟨Instant.ordinary_lastOrdinary, rfl⟩, rfl, ?_⟩
    have hadd := Span.add?_lastOrdinary_eq_none hnonce
    obtain ⟨w', hanswer⟩ := World.exists_answer_issueNonce
      (w := World.start settings .memory .lastOrdinary ⟨[], 0⟩ false) rfl hadd
    rw [ServiceRequest.operation, World.perform_bind, Service.issueNonce, World.perform_ask hanswer]
    rfl

/-- An environment gives settings or a refusal, unless one of its lifetimes is a number of seconds
of which there is no span, and those that are read before it are good.

With the settings that it gives, the lifetimes decide whether all requests return. If each of them
fits, a caller is done after eight turns of its own, whatever the world holds, whoever else is there
and whatever fails, as long as the clock shows a year from 1970 to 9999. If one does not fit, there
is a request in such a year that cannot go on, alone and without failures. -/
theorem lifetimes_decide_what_returns (env : Environment) :
    (ofEnvironment env = .error .noSuchSpan ↔ env.Overflows) ∧
    ∀ settings, ofEnvironment env = .ok settings →
      (settings.Fits → ∀ (w : World) (requests : List ServiceRequest)
        (turns : List Pool.FaultyTurn), w.nonces.lifetime = settings.nonceLifetime →
        (∀ t ∈ turns, t.turn.surroundings.clock.Ordinary) →
        ∀ i < requests.length, 8 ≤ turns.countP (fun t => t.turn.caller = i) →
          ∃ o, ((Pool.start settings w requests).faultyRun turns).result? i = some o) ∧
      (¬settings.Fits → ∃ (w : World) (request : ServiceRequest),
        w.clock.Ordinary ∧ w.nonces.lifetime = settings.nonceLifetime ∧ w.faults = {} ∧
        w.perform (request.operation settings) = none) := by
  refine ⟨ofEnvironment_eq_noSuchSpan_iff, fun settings hsettings => ?_⟩
  have hs := sound_of_ofEnvironment hsettings
  refine ⟨fun hfits w requests turns hlifetime hclock i hi hturns => ?_, fun hfits => ?_⟩
  · refine Pool.exists_result_of_endsIn (q := requests[i].operation settings) turns hlifetime
      hclock ?_ (Service.endsIn_operation hs hfits requests[i]) hturns
    rw [Pool.start, List.getElem?_map, List.getElem?_eq_getElem hi]
    rfl
  · obtain ⟨w, request, hw, hfaults, hperform⟩ := exists_perform_eq_none hs hfits
    exact ⟨w, request, hw.clock, hw.lifetime, hfaults, hperform⟩

/-- An environment in which one variable has a text, besides those that must be set. -/
def minimal (v : Variable) (text : String) : Environment := fun name =>
  if name = v.name then some text
  else if name = "GOOGLE_CLIENT_ID" then some "client"
  else if name = "JWT_SIGNING_KEY" then some "key"
  else none

/-- With nonces of ten minutes a request returns, and with the longest sessions that can be set one
does not. -/
theorem short_lifetimes_return :
    (∃ settings o, ofEnvironment (minimal .nonceLifetime "600") = .ok settings ∧
      ((Pool.start settings (World.start settings .memory SessionToken.noon ⟨[], 0⟩ false)
        [.logout none, .issueNonce]).faultyRun
          (List.replicate 8 ⟨⟨1, FirstLogin.surroundings SessionToken.noon⟩, {}⟩)).result? 1 =
            some o) ∧
    ∃ settings, ∃ (w : World) (request : ServiceRequest),
      ofEnvironment (minimal .sessionLifetime "9223372036854775") = .ok settings ∧
      w.clock.Ordinary ∧ w.perform (request.operation settings) = none := by
  constructor
  · obtain ⟨settings, hsettings, hfits⟩ : ∃ settings,
        ofEnvironment (minimal .nonceLifetime "600") = .ok settings ∧ settings.Fits :=
      ⟨_, by rfl, by decide, by decide, by decide⟩
    have hnoon : SessionToken.noon.Ordinary := ⟨by decide, by decide⟩
    have hclock : ∀ t ∈ List.replicate 8
        (⟨⟨1, FirstLogin.surroundings SessionToken.noon⟩, {}⟩ : Pool.FaultyTurn),
        t.turn.surroundings.clock.Ordinary := by
      intro t ht
      rwa [List.eq_of_mem_replicate ht]
    obtain ⟨o, ho⟩ := ((lifetimes_decide_what_returns _).2 settings hsettings).1 hfits
      (World.start settings .memory SessionToken.noon ⟨[], 0⟩ false)
      [.logout none, .issueNonce] _ rfl hclock 1 (by decide) (by decide)
    exact ⟨settings, o, hsettings, ho⟩
  · obtain ⟨settings, hsettings, hlong⟩ : ∃ settings,
        ofEnvironment (minimal .sessionLifetime "9223372036854775") = .ok settings ∧
          ¬settings.sessionLifetime.Fits :=
      ⟨_, by rfl, by decide⟩
    obtain ⟨w, request, hclock, -, -, hnone⟩ :=
      ((lifetimes_decide_what_returns _).2 settings hsettings).2 fun hfits => hlong hfits.session
    exact ⟨settings, w, request, hsettings, hclock, hnone⟩

/-- One second more than there is a span of is neither taken nor refused ; one second less is taken,
and then no nonce can be issued. -/
theorem too_long_lifetimes :
    ofEnvironment (minimal .sessionLifetime "9223372036854776") = .error .noSuchSpan ∧
      ∃ settings, ofEnvironment (minimal .nonceLifetime "9223372036854775") = .ok settings ∧
        (World.start settings .memory SessionToken.noon ⟨[], 0⟩ false).perform
          (ServiceRequest.issueNonce.operation settings) = none := by
  refine ⟨by rfl, _, by rfl, by rfl⟩

end Settings

end SignIn
