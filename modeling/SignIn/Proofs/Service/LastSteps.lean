import Mathlib.Data.List.Perm.Basic
import SignIn.Proofs.Refresh.Operations
import SignIn.Proofs.Service.Answers
import SignIn.Service.Login
import SignIn.Service.Refresh

/-!
# Handing out a session alone

The last steps of a login and of a refresh, in any world and with any failures. Issuing a token adds
one record to the store or leaves it as it was, whatever the store holds
(`RefreshStore.issue_cases`), and so an operation that hands out a session ends in one of four ways
(`World.Handed`) : no session was minted, an expiry lies outside the calendar, the store refused the
token, or there are two cookies.
-/

namespace SignIn

/-! ## Any store -/

theorem Dict.entries_insert_of_not_contains {α : Type} {d : Dict α} {k : String}
    (h : d.contains k = false) (v : α) : (d.insert k v).entries = (k, v) :: d.entries := by
  refine congrArg ((k, v) :: ·) (List.filter_eq_self.2 fun e he => ?_)
  obtain ⟨j, u⟩ := e
  rw [contains, get?, Option.isSome_eq_false_iff, Option.isNone_iff_eq_none,
    List.lookup_eq_none_iff] at h
  have hne : ¬k = j := by simpa using h (j, u) he
  simpa using Ne.symm hne

namespace RefreshStore

/-- A record goes in, or nothing changes. -/
theorem insert_cases (s : RefreshStore) (r : RefreshRecord) :
    (∃ cause, s.insert r = (.error cause, s)) ∨
      ∃ s', s.insert r = (.ok (), s') ∧ s'.records.Perm (r :: s.records) := by
  cases s with
  | memory m =>
    cases hc : m.byHash.contains r.tokenHash || m.byId.contains r.tokenId with
    | true => exact Or.inl ⟨.duplicate, by rw [insert, RefreshMemory.insert, hc]; rfl⟩
    | false =>
      have hid : m.byId.contains r.tokenId = false := (Bool.or_eq_false_iff.1 hc).2
      refine Or.inr ⟨_, by rw [insert, RefreshMemory.insert, hc]; rfl, ?_⟩
      rw [records, Dict.entries_insert_of_not_contains hid]
      exact List.Perm.refl _
  | table t =>
    obtain ⟨rows, isOpen⟩ := t
    cases isOpen with
    | false => exact Or.inl ⟨.storage .closed, rfl⟩
    | true =>
      have hx := execute_insert (t := ⟨rows, true⟩) rfl r
      cases hc : RefreshTable.clash rows r with
      | some column =>
        rw [hc] at hx
        exact Or.inl ⟨.duplicate, by simp only [insert, RefreshTable.insert, Script.run, hx]⟩
      | none =>
        rw [hc] at hx
        refine Or.inr ⟨.table ⟨rows ++ [r], true⟩, ?_, List.perm_append_comm⟩
        simp only [insert, RefreshTable.insert, Script.run, hx]

/-- A token is issued and its record goes in, or nothing changes but the random bytes. -/
theorem issue_cases (s : RefreshStore) (now : Instant) (entropy : Entropy) (userId : String)
    (expires : Int) (previous : String) :
    (∃ e, s.issue now entropy userId expires previous =
        (.error e, s, (IssuedRefresh.draw now entropy).2)) ∨
      ∃ s', s.issue now entropy userId expires previous =
          (.ok (IssuedRefresh.draw now entropy).1, s', (IssuedRefresh.draw now entropy).2) ∧
        s'.records.Perm
          ((IssuedRefresh.draw now entropy).1.record now userId expires previous :: s.records) := by
  rcases s.insert_cases ((IssuedRefresh.draw now entropy).1.record now userId expires previous) with
    ⟨cause, h⟩ | ⟨s', h, hperm⟩
  · refine Or.inl ⟨s.fail .issue cause, ?_⟩
    simp only [issue]
    rw [h]
  · refine Or.inr ⟨s', ?_, hperm⟩
    simp only [issue]
    rw [h]

end RefreshStore

namespace World

variable (w : World)

/-! ## Answers with their failures -/

/-- Writes a user down, unless a failure is set. -/
def upsertUser (d : UserDetails) : Except UserError (String × List String) × World :=
  match w.faults.userUpsert with
  | some e => (.error e, w)
  | none =>
    let (reply, users, entropy) := w.users.upsert w.entropy d
    (reply, { w with users := users, entropy := entropy })

/-- Issues a refresh token, unless a failure is set. -/
def issueRefresh (userId : String) (expires : Int) (previous : String) :
    Except RefreshError IssuedRefresh × World :=
  match w.faults.refreshIssue with
  | some cause => (.error (w.refreshTokens.fail .issue cause), w)
  | none =>
    let (reply, refreshTokens, entropy) :=
      w.refreshTokens.issue w.clock w.entropy userId expires previous
    (reply, { w with refreshTokens := refreshTokens, entropy := entropy })

/-- Counts an event, if events are counted. -/
def counted (event : Event) : World :=
  if w.counting then { w with counters := w.counters.increment event } else w

/-- Writes an entry to the log. -/
def logged (entry : LogEntry) : World := { w with log := w.log ++ [entry] }

theorem answer_eq_upsertUser (d : UserDetails) :
    answer (.upsertUser d) w = some (w.upsertUser d) := by
  unfold answer fault? upsertUser
  cases w.faults.userUpsert <;> rfl

theorem answer_eq_issueRefresh (userId : String) (expires : Int) (previous : String) :
    answer (.issueRefresh userId expires previous) w =
      some (w.issueRefresh userId expires previous) := by
  unfold answer fault? issueRefresh
  cases w.faults.refreshIssue <;> rfl

theorem answer_eq_count (event : Event) :
    answer (.count event) w = some ((), w.counted event) := rfl

theorem answer_eq_log (entry : LogEntry) : answer (.log entry) w = some ((), w.logged entry) := rfl

theorem counted_eq (event : Event) :
    ∃ counters, w.counted event = { w with counters := counters } := by
  unfold counted
  split_ifs
  · exact ⟨_, rfl⟩
  · exact ⟨w.counters, rfl⟩

/-- A success is counted. -/
theorem perform_count {α : Type} (event : Event) (a : α) : ∃ counters,
    w.perform (.ask (.count event) fun _ => .done a) =
      some (a, { w with counters := counters }) := by
  obtain ⟨counters, hcounted⟩ := w.counted_eq event
  refine ⟨counters, ?_⟩
  rw [perform_ask (w.answer_eq_count event), hcounted]
  rfl

/-- A failure is counted and logged. -/
theorem perform_count_log {α : Type} (event : Event) (entry : LogEntry) (a : α) : ∃ counters,
    w.perform (.ask (.count event) fun _ => .ask (.log entry) fun _ => .done a) =
      some (a, { w with counters := counters, log := w.log ++ [entry] }) := by
  obtain ⟨counters, hcounted⟩ := w.counted_eq event
  refine ⟨counters, ?_⟩
  rw [perform_ask (w.answer_eq_count event), hcounted, perform_ask (answer_eq_log _ entry)]
  rfl

/-- Counting a result and logging its failure change neither the result nor the stores. -/
theorem perform_counted {α : Type} {p : Operation (Except AuthFailure α)}
    {k : Except AuthFailure α → Operation (Except AuthFailure α)} {success failure : Event}
    {entry : AuthFailure → LogEntry}
    (hok : ∀ a, k (.ok a) = .ask (.count success) fun _ => .done (.ok a))
    (herror : ∀ f, k (.error f) =
      .ask (.count failure) fun _ => .ask (.log (entry f)) fun _ => .done (.error f)) :
    w.perform p = none ∧ w.perform (p.bind k) = none ∨ ∃ result w' counters log,
      w.perform p = some (result, w') ∧
        w.perform (p.bind k) = some (result, { w' with counters := counters, log := log }) := by
  rw [perform_bind]
  rcases w.perform p with _ | ⟨f | a, w'⟩
  · exact Or.inl ⟨rfl, rfl⟩
  · obtain ⟨counters, h⟩ := w'.perform_count_log failure (entry f) (.error f : Except AuthFailure α)
    exact Or.inr ⟨_, w', counters, _, rfl, by rw [← h, ← herror]; rfl⟩
  · obtain ⟨counters, h⟩ := w'.perform_count success (.ok a : Except AuthFailure α)
    exact Or.inr ⟨_, w', counters, w'.log, rfl, by rw [← h, ← hok]; rfl⟩

/-- The details of a user are written to the user store and nowhere else. -/
theorem upsertUser_eq (d : UserDetails) : ∃ users entropy,
    (w.upsertUser d).2 = { w with users := users, entropy := entropy } := by
  unfold upsertUser
  cases w.faults.userUpsert with
  | some e => exact ⟨w.users, w.entropy, rfl⟩
  | none => exact ⟨_, _, rfl⟩

section Issuing

variable {w w' : World} {userId previous : String} {expires : Int}

/-- Where no token is issued, nothing changes but the random bytes. -/
theorem behind_of_unissued {e : RefreshError}
    (h : w.issueRefresh userId expires previous = (.error e, w')) :
    ∃ entropy, w' = { w with entropy := entropy } := by
  unfold issueRefresh at h
  cases hf : w.faults.refreshIssue with
  | some cause =>
    rw [hf] at h
    exact ⟨w.entropy, (Prod.mk.inj h).2.symm⟩
  | none =>
    rcases w.refreshTokens.issue_cases w.clock w.entropy userId expires previous with
      ⟨e', hissue⟩ | ⟨s, hissue, -⟩
    · simp only [hf, hissue] at h
      exact ⟨_, (Prod.mk.inj h).2.symm⟩
    · simp only [hf, hissue] at h
      cases h

/-- A token that is issued was issued by the store, which has its record besides the others. -/
theorem behind_of_issued {issued : IssuedRefresh}
    (h : w.issueRefresh userId expires previous = (.ok issued, w')) :
    ∃ s entropy, w' = { w with refreshTokens := s, entropy := entropy } ∧
      w.refreshTokens.issue w.clock w.entropy userId expires previous = (.ok issued, s, entropy) ∧
      s.records.Perm (issued.record w.clock userId expires previous ::
        w.refreshTokens.records) := by
  unfold issueRefresh at h
  cases hf : w.faults.refreshIssue with
  | some cause =>
    rw [hf] at h
    cases h
  | none =>
    rcases w.refreshTokens.issue_cases w.clock w.entropy userId expires previous with
      ⟨e', hissue⟩ | ⟨s, hissue, hperm⟩
    · simp only [hf, hissue] at h
      cases h
    · simp only [hf, hissue] at h
      obtain ⟨hissued, rfl⟩ := Prod.mk.inj h
      obtain rfl := Except.ok.inj hissued
      exact ⟨s, _, rfl, hissue, hperm⟩

end Issuing

/-! ## The last steps -/

/-- How handing out a session can end. -/
inductive Handed (settings : Settings) (profile : Profile) (previous : String) (w : World) :
    Option (Except AuthFailure (List String) × World) → Prop
  | unminted {e} (mint : SessionToken.mint profile settings.issuer settings.signingKey w.clock
      settings.sessionLifetime = .error e) :
      Handed settings profile previous w (some (.error (.mint e), w))
  | beyond {minted?} (mint : SessionToken.mint profile settings.issuer settings.signingKey w.clock
        settings.sessionLifetime = .ok minted?)
      (late : w.clock.add? settings.sessionLifetime = none ∨
        w.clock.add? settings.refreshLifetime = none) :
      Handed settings profile previous w none
  | refused {sessionExpires expires e w'}
      (mint : SessionToken.mint profile settings.issuer settings.signingKey w.clock
        settings.sessionLifetime = .ok (some ⟨SessionToken.sign settings.signingKey
          (SessionToken.claims profile settings.issuer w.clock sessionExpires), sessionExpires⟩))
      (session : w.clock.add? settings.sessionLifetime = some sessionExpires)
      (refresh : w.clock.add? settings.refreshLifetime = some expires)
      (issue : w.issueRefresh profile.userId expires.seconds previous = (.error e, w')) :
      Handed settings profile previous w (some (.error (.issueRefresh e), w'))
  | handed {sessionExpires expires issued w'}
      (mint : SessionToken.mint profile settings.issuer settings.signingKey w.clock
        settings.sessionLifetime = .ok (some ⟨SessionToken.sign settings.signingKey
          (SessionToken.claims profile settings.issuer w.clock sessionExpires), sessionExpires⟩))
      (session : w.clock.add? settings.sessionLifetime = some sessionExpires)
      (refresh : w.clock.add? settings.refreshLifetime = some expires)
      (issue : w.issueRefresh profile.userId expires.seconds previous = (.ok issued, w')) :
      Handed settings profile previous w (some
        (.ok [Cookie.setSession settings (SessionToken.sign settings.signingKey
            (SessionToken.claims profile settings.issuer w.clock sessionExpires))
            sessionExpires w.clock,
          Cookie.setRefresh settings issued.secret expires w.clock], w'))

/-- A session that is not refused is minted unless it would expire outside the calendar. -/
theorem mint_cases (settings : Settings) (profile : Profile) :
    (∃ e, SessionToken.mint profile settings.issuer settings.signingKey w.clock
        settings.sessionLifetime = .error e) ∨
      SessionToken.mint profile settings.issuer settings.signingKey w.clock
        settings.sessionLifetime = .ok ((w.clock.add? settings.sessionLifetime).map fun expires =>
          ⟨SessionToken.sign settings.signingKey
            (SessionToken.claims profile settings.issuer w.clock expires), expires⟩) := by
  unfold SessionToken.mint
  split_ifs
  · exact Or.inl ⟨_, rfl⟩
  · exact Or.inl ⟨_, rfl⟩
  · exact Or.inr rfl

theorem handed_perform (settings : Settings) (profile : Profile) (previous : String) :
    Handed settings profile previous w (w.perform (Service.handOut settings profile previous)) := by
  have hclock : answer .readClock w = some (w.clock, w) := rfl
  rw [Service.handOut, perform_ask hclock, perform_ask hclock]
  rcases w.mint_cases settings profile with ⟨e, hmint⟩ | hmint
  · simp only [hmint]
    exact .unminted hmint
  cases hsession : w.clock.add? settings.sessionLifetime with
  | none =>
    rw [hsession] at hmint
    simp only [hmint]
    exact .beyond hmint (Or.inl hsession)
  | some sessionExpires =>
    rw [hsession] at hmint
    cases hrefresh : w.clock.add? settings.refreshLifetime with
    | none =>
      simp only [hmint]
      exact .beyond hmint (Or.inr hrefresh)
    | some expires =>
      simp only [hmint, Option.map_some]
      have hanswer := w.answer_eq_issueRefresh profile.userId expires.seconds previous
      rcases hissue : w.issueRefresh profile.userId expires.seconds previous with ⟨e | issued, w'⟩
      · rw [hissue] at hanswer
        rw [perform_ask hanswer]
        exact .refused hmint hsession hrefresh hissue
      · rw [hissue] at hanswer
        rw [perform_ask hanswer]
        exact .handed hmint hsession hrefresh hissue

end World

end SignIn
