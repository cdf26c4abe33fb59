import SignIn.Proofs.Service.Journal

/-!
# Grounds of a question

What an operation asks and ends with may depend on the answers before. `Along` is `Only` with these
answers at hand, and like `Only` it is read off the text of an operation.

A login asks for a token for the user that it has written down, in the place of none, and a refresh
asks for one for the user whose profile it was given, in the place of the record that its secret was
good for (`Entitled`). Two failures have grounds as well (`Fails`) : nobody but an entitled user was
to have a session that cannot be minted, and the profile that a refresh misses is that of the
record's user. `along_operation` says so of every request.
-/

namespace SignIn

namespace Operation

variable {α β : Type} {G : List Exchange → Call → Prop} {Q : List Exchange → α → Prop}

/-- After the answers `es`, each question of the operation has the grounds `G` and its result the
grounds `Q`, in the answers met until then. -/
inductive Along (G : List Exchange → Call → Prop) (Q : List Exchange → α → Prop) :
    List Exchange → Operation α → Prop
  | done {es a} (h : Q es a) : Along G Q es (.done a)
  | ask {es c next} (hc : G es c) (h : ∀ r, Along G Q (es ++ [⟨c, r⟩]) (next r)) :
    Along G Q es (.ask c next)

/-- The rest of an operation has its grounds in the answers of the first part and its own. -/
theorem Along.answered {p q : Operation α} {es fs : List Exchange} (hp : Along G Q es p)
    (h : Answered p fs q) : Along G Q (es ++ fs) q := by
  induction h generalizing es with
  | nil => rwa [List.append_nil]
  | cons r fs _ ih =>
    cases hp with
    | ask hc hnext =>
      rw [← List.singleton_append, ← List.append_assoc]
      exact ih (hnext r)

/-- What comes behind an operation may count on the grounds of its result. -/
theorem Along.bind {R : List Exchange → β → Prop} {k : α → Operation β} {p : Operation α}
    {es : List Exchange} (hp : Along G Q es p) (hk : ∀ es a, Q es a → Along G R es (k a)) :
    Along G R es (p.bind k) := by
  induction hp with
  | done h => exact hk _ _ h
  | ask hc _ ih => exact .ask hc ih

/-- A step that may fail ends on the grounds of its failure, or goes on. -/
theorem Along.andThen {ε φ : Type} {R : List Exchange → Except φ β → Prop} {es : List Exchange}
    {reply : Except ε α} {failure : ε → φ} {next : α → Operation (Except φ β)}
    (hbad : ∀ e, reply = .error e → R es (.error (failure e)))
    (hgood : ∀ a, reply = .ok a → Along G R es (next a)) :
    Along G R es (Script.andThen reply failure next) := by
  cases reply with
  | error e => exact .done (hbad e rfl)
  | ok a => exact hgood a rfl

end Operation

/-! ## Entitled users -/

/-- By its answers so far, the request may have a token for the user, in the place of `previous`. -/
inductive Entitled (es : List Exchange) (userId : String) : String → ServiceRequest → Prop
  /-- The login has written the user down. -/
  | login {idToken nonce : String} {https : Bool} {d : UserDetails} {roles : List String}
    (written : ⟨.upsertUser d, .ok (userId, roles)⟩ ∈ es) :
    Entitled es userId "" (.login idToken nonce https)
  /-- The secret of the refresh was good, and the profile of the record's user is that of the
  user. -/
  | refresh {cookie : Option String} {secret : String} {v : ValidRefresh} {profile : Profile}
    (valid : ⟨.validateRefresh secret, .ok v⟩ ∈ es)
    (given : ⟨.userProfile v.userId, .ok profile⟩ ∈ es) (same : profile.userId = userId) :
    Entitled es userId v.tokenId (.refresh cookie)

/-- Who is entitled stays so, whatever else is answered. -/
theorem Entitled.append {es : List Exchange} {userId previous : String} {request : ServiceRequest}
    (h : Entitled es userId previous request) (fs : List Exchange) :
    Entitled (es ++ fs) userId previous request := by
  cases h with
  | login written => exact .login (List.mem_append_left _ written)
  | refresh valid given same =>
    exact .refresh (List.mem_append_left _ valid) (List.mem_append_left _ given) same

/-- A token is asked for on behalf of an entitled user only. -/
def Asks (request : ServiceRequest) (es : List Exchange) (c : Call) : Prop :=
  ∀ userId expires previous, c = .issueRefresh userId expires previous →
    Entitled es userId previous request

/-- Other questions need no grounds. -/
theorem asks_other {request : ServiceRequest} {es : List Exchange} {c : Call}
    (h : (match c with | .issueRefresh _ _ _ => false | _ => true) = true) : Asks request es c := by
  rintro userId expires previous rfl
  cases h

/-- A session that cannot be minted is that of an entitled user, and a profile that is missing is
that of the user of a record whose secret was good. -/
def Fails (settings : Settings) (request : ServiceRequest) (es : List Exchange) : AuthFailure → Prop
  | .mint e => ∃ profile previous now, Entitled es profile.userId previous request ∧
      SessionToken.mint profile settings.issuer settings.signingKey now settings.sessionLifetime =
        .error e
  | .profileUnavailable e => ∃ secret v,
      [(⟨.validateRefresh secret, .ok v⟩ : Exchange), ⟨.userProfile v.userId, .error e⟩].Sublist es
  | _ => True

theorem Fails.append {settings : Settings} {request : ServiceRequest} {es : List Exchange}
    {f : AuthFailure} (h : Fails settings request es f) (fs : List Exchange) :
    Fails settings request (es ++ fs) f := by
  cases f with
  | mint e =>
    obtain ⟨profile, previous, now, hentitled, hmint⟩ := h
    exact ⟨profile, previous, now, hentitled.append fs, hmint⟩
  | profileUnavailable e =>
    obtain ⟨secret, v, hsub⟩ := h
    exact ⟨secret, v, hsub.trans (List.sublist_append_left es fs)⟩
  | _ => trivial

/-- If the steps failed, they failed on grounds. -/
def Ended {α : Type} (settings : Settings) (request : ServiceRequest) (es : List Exchange)
    (result : Except AuthFailure α) : Prop :=
  ∀ f, result = .error f → Fails settings request es f

theorem ended_ok {α : Type} {settings : Settings} {request : ServiceRequest} {es : List Exchange}
    (a : α) : Ended settings request es (.ok a) := nofun

theorem ended_error {α : Type} {settings : Settings} {request : ServiceRequest} {es : List Exchange}
    {f : AuthFailure} (h : Fails settings request es f) :
    Ended settings request es (.error f : Except AuthFailure α) := fun g hg => by
  cases hg
  exact h

/-! ## The steps of each request -/

namespace Service

open Operation

variable {settings : Settings} {request : ServiceRequest} {es : List Exchange}

theorem along_halt {α : Type} {Q : List Exchange → α → Prop} :
    Along (Asks request) Q es Operation.halt :=
  .ask (asks_other rfl) fun r => r.elim

/-- To hand out a session asks for one token, that of the entitled user. -/
theorem along_handOut {profile : Profile} {previous : String}
    (h : Entitled es profile.userId previous request) :
    Along (Asks request) (Ended settings request) es (handOut settings profile previous) := by
  refine .ask (asks_other rfl) fun now => .ask (asks_other rfl) fun issuedAt => ?_
  have h := (h.append [⟨.readClock, now⟩]).append [⟨.readClock, issuedAt⟩]
  dsimp only
  split
  · rename_i e hmint
    exact .done (ended_error ⟨profile, previous, issuedAt, h, hmint⟩)
  · exact along_halt
  · exact along_halt
  · refine .ask (fun userId expires place hc => ?_) fun answer => ?_
    · cases hc
      exact h
    · exact .andThen (fun e _ => ended_error trivial) fun issued _ => .done (ended_ok _)

/-- A login asks for a token after it has written its user down. -/
theorem along_tryLogin (settings : Settings) (idToken nonce : String) (https : Bool) :
    let request := ServiceRequest.login idToken nonce https
    Along (Asks request) (Ended settings request) [] (tryLogin settings idToken nonce https) := by
  intro request
  unfold tryLogin
  extract_lets idToken nonce
  split
  · exact .done (ended_error trivial)
  split
  · exact .done (ended_error trivial)
  refine .ask (asks_other rfl) fun _ => .andThen (fun _ _ => ended_error trivial) fun _ _ => ?_
  split
  · exact .done (ended_error trivial)
  refine .ask (asks_other rfl) fun _ => .andThen (fun _ _ => ended_error trivial) fun claims _ => ?_
  refine .andThen (fun _ _ => ended_error trivial) fun identity _ => ?_
  refine .ask (asks_other rfl) fun answer =>
    .andThen (fun _ _ => ended_error trivial) fun user hok => ?_
  subst hok
  obtain ⟨userId, roles⟩ := user
  dsimp only
  refine Along.bind (along_handOut (.login (List.mem_append_right _ (List.mem_singleton.2 rfl))))
    fun es result hresult => .done fun f hf => ?_
  cases result with
  | error g =>
    cases hf
    exact hresult f rfl
  | ok cookies => cases hf

/-- A refresh asks for a token after its secret was good and its profile was given. -/
theorem along_tryRefresh (settings : Settings) (cookie : Option String) :
    let request := ServiceRequest.refresh cookie
    Along (Asks request) (Ended settings request) [] (tryRefresh settings cookie) := by
  intro request
  unfold tryRefresh
  split
  · exact .done (ended_error trivial)
  rename_i secret hsecret
  refine .ask (asks_other rfl) fun _ => .andThen (fun _ _ => ended_error trivial) fun v hv => ?_
  subst hv
  refine .ask (asks_other rfl) fun _ => .andThen (fun e he => ?_) fun profile hprofile => ?_
  · subst he
    exact ended_error ⟨secret, v, .refl _⟩
  subst hprofile
  refine Along.bind
    (along_handOut (@Entitled.refresh _ _ _ secret v profile (by simp) (by simp) rfl))
    fun es result hresult => ?_
  cases result with
  | error f => exact .done (ended_error (hresult f rfl))
  | ok cookies =>
    refine .ask (asks_other rfl) fun answer => ?_
    cases answer with
    | ok u => exact .done (ended_ok _)
    | error e =>
      dsimp only
      split_ifs
      · exact .done (ended_ok _)
      · exact .done (ended_error trivial)

theorem along_revokeQuietly (secret : String) :
    Along (Asks request) (fun _ _ => True) es (revokeQuietly secret) := by
  refine .ask (asks_other rfl) fun answer => ?_
  cases answer with
  | error e => exact .ask (asks_other rfl) fun _ => .done trivial
  | ok v =>
    refine .ask (asks_other rfl) fun answer => ?_
    cases answer with
    | ok u => exact .done trivial
    | error e =>
      dsimp only
      split_ifs
      · exact .done trivial
      · exact .ask (asks_other rfl) fun _ => .done trivial

end Service

/-- A login or a refresh that failed failed on grounds. -/
def Outcome.Grounded (settings : Settings) (request : ServiceRequest) (es : List Exchange) :
    Outcome → Prop
  | .login result => Ended settings request es result
  | .refresh result => Ended settings request es result
  | _ => True

namespace ServiceRequest

open Operation

/-- Every request asks for tokens and fails on grounds alone. -/
theorem along_operation (settings : Settings) (request : ServiceRequest) :
    Along (Asks request) (Outcome.Grounded settings request) [] (request.operation settings) := by
  cases request with
  | issueNonce =>
    refine .ask (asks_other rfl) fun answer => ?_
    rcases answer with e | _ | nonce
    · exact .ask (asks_other rfl) fun _ => .done trivial
    · exact .ask (asks_other rfl) fun r => r.elim
    · exact .done trivial
  | login idToken nonce https =>
    rw [operation, Service.login]
    refine ((Service.along_tryLogin settings idToken nonce https).bind
      fun es result hresult => ?_).bind fun es result hresult => .done hresult
    cases result with
    | ok outcome => exact .ask (asks_other rfl) fun _ => .done (ended_ok _)
    | error f =>
      refine .ask (asks_other rfl) fun _ => .ask (asks_other rfl) fun _ => .done (ended_error ?_)
      exact ((hresult f rfl).append _).append _
  | refresh cookie =>
    rw [operation, Service.refresh]
    refine ((Service.along_tryRefresh settings cookie).bind fun es result hresult => ?_).bind
      fun es result hresult => .done hresult
    cases result with
    | ok cookies => exact .ask (asks_other rfl) fun _ => .done (ended_ok _)
    | error f =>
      refine .ask (asks_other rfl) fun _ => .ask (asks_other rfl) fun _ => .done (ended_error ?_)
      exact ((hresult f rfl).append _).append _
  | logout cookie =>
    rw [operation, Service.logout]
    refine Along.bind (Q := fun _ _ => True) (Along.bind (Q := fun _ _ => True) ?_ fun _ _ _ =>
      .ask (asks_other rfl) fun _ => .done trivial) fun _ _ _ => .done trivial
    split
    · exact Service.along_revokeQuietly _
    · exact .done trivial

end ServiceRequest

end SignIn
