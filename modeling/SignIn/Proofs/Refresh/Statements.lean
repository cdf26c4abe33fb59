import SignIn.Proofs.Refresh.Agreement

/-!
# Statements side by side

A table is used by many at once, of any number of service instances. Each call is a script of
statements (`RefreshRequest.script`), which alone is the call of the store (`serve_eq_run`), and in
the traffic of a table (`RefreshTable.Traffic`) one statement of one call follows another in any
order.

An active row waits as long as no revocation of it has had a statement (`Traffic.Waiting`), and the
first one that has wins (`Waiting.step`). From then on the row does not change any more, and
whatever is left of another revocation ends with a refusal (`Loses`). Either is preserved by every
statement (`Won.step`), and so one revocation wins and the others do not (`exists_one_winner`).
-/

namespace SignIn

/-! ## Calls as scripts -/

/-- The statements of a call on a table, ending with the call and its answer. -/
def RefreshRequest.script (q : RefreshRequest) : Script refreshStatements RefreshEvent :=
  match q.call with
  | .issue userId expires previous =>
    let issued := (IssuedRefresh.draw q.now q.entropy).1
    (RefreshTable.insert (issued.record q.now userId expires previous)).bind fun answer =>
      .done (.issue userId expires previous
        ((answer.map fun _ => issued).mapError fun cause => ⟨.sqlite, .issue, cause⟩))
  | .validate secret =>
    (RefreshTable.validate q.now.seconds secret).bind fun answer =>
      .done (.validate secret (answer.mapError fun cause => ⟨.sqlite, .validate, cause⟩))
  | .revoke tokenId =>
    (RefreshTable.revoke q.now.seconds tokenId).bind fun answer =>
      .done (.revoke tokenId (answer.mapError fun cause => ⟨.sqlite, .revoke, cause⟩))

/-- What a script is answered, put into words. -/
theorem run_bind_done {α β : Type} (p : Script refreshStatements α) (f : α → β)
    (t : Table RefreshRecord) :
    (p.bind fun a => .done (f a)).run RefreshTable.execute t =
      (f (p.run RefreshTable.execute t).1, (p.run RefreshTable.execute t).2) :=
  Script.run_bind RefreshTable.execute p _ t

/-- A call whose statements follow each other is the call of the store. -/
theorem RefreshRequest.serve_eq_run (q : RefreshRequest) (t : Table RefreshRecord) :
    (RefreshStore.table t).serve q.now q.entropy q.call =
      ((q.script.run RefreshTable.execute t).1,
        .table (q.script.run RefreshTable.execute t).2) := by
  obtain ⟨now, entropy, call⟩ := q
  cases call with
  | issue userId expires previous =>
    simp only [script, run_bind_done, RefreshStore.serve, RefreshStore.issue, RefreshStore.insert]
    cases ((RefreshTable.insert ((IssuedRefresh.draw now entropy).1.record now userId expires
      previous)).run RefreshTable.execute t).1 <;> rfl
  | validate secret =>
    have hsame : ((RefreshTable.validate now.seconds secret).run RefreshTable.execute t).2 = t := by
      unfold RefreshTable.validate
      split_ifs
      · rfl
      · obtain ⟨rows, _ | _⟩ := t <;> rfl
    simp only [script, run_bind_done, RefreshStore.serve, RefreshStore.validate, hsame]
    rfl
  | revoke tokenId =>
    simp only [script, run_bind_done, RefreshStore.serve, RefreshStore.revoke]
    rfl

namespace RefreshTable

open RefreshStore (execute_insert execute_selectById execute_selectByHash execute_stampActive
  stamped tokenId_stamped tokenHash_stamped get?_map_stamped isActive_iff length_filter_isActive)

variable {t : Table RefreshRecord} {i : String} {r : RefreshRecord}

/-! ## One statement -/

/-- Each statement keeps the two columns without repetition. -/
theorem Consistent.execute (h : Consistent t) (s : RefreshStatement) :
    Consistent (execute s t).2 := by
  cases s with
  | insert q =>
    rw [execute_insert h.isOpen]
    cases hc : clash t.rows q with
    | some column => exact h
    | none => exact h.put hc
  | selectByHash k =>
    rw [execute_selectByHash h.isOpen]
    exact h
  | stampActive j stamp =>
    rw [execute_stampActive h.isOpen]
    exact h.map (tokenId_stamped j stamp) (tokenHash_stamped j stamp)
  | selectById j =>
    rw [execute_selectById h.isOpen]
    exact h

/-- A row is as it was, unless it was active and the statement has stamped it. -/
theorem get?_execute (h : Consistent t) (hr : (RefreshStore.table t).get? i = some r)
    (s : RefreshStatement) :
    (RefreshStore.table (execute s t).2).get? i = some r ∨
      r.isRevoked = false ∧ ∃ stamp, s = .stampActive i stamp := by
  have hid : r.tokenId = i := RefreshStore.Sound.tokenId_of_get? (s := .table t) h hr
  cases s with
  | insert q =>
    rw [execute_insert h.isOpen]
    refine Or.inl ?_
    cases clash t.rows q with
    | some column => exact hr
    | none =>
      simp only [RefreshStore.get?] at hr ⊢
      rw [List.find?_append, hr]
      rfl
  | selectByHash k =>
    rw [execute_selectByHash h.isOpen]
    exact Or.inl hr
  | selectById j =>
    rw [execute_selectById h.isOpen]
    exact Or.inl hr
  | stampActive j stamp =>
    rw [execute_stampActive h.isOpen, get?_map_stamped, hr, Option.map_some, stamped]
    split_ifs with ha
    · obtain ⟨hj, hact⟩ := isActive_iff.1 ha
      exact Or.inr ⟨hact, stamp, by rw [← hj, hid]⟩
    · exact Or.inl rfl

/-- No statement changes a row that is revoked. -/
theorem get?_execute_of_isRevoked (h : Consistent t)
    (hr : (RefreshStore.table t).get? i = some r) (hrev : r.isRevoked = true)
    (s : RefreshStatement) : (RefreshStore.table (execute s t).2).get? i = some r := by
  rcases get?_execute h hr s with hr' | ⟨hact, -⟩
  · exact hr'
  · rw [hrev] at hact
    cases hact

/-- Stamping an active row changes one row, and it is this one. -/
theorem execute_stampActive_of_active (h : Consistent t)
    (hr : (RefreshStore.table t).get? i = some r) (hact : r.isRevoked = false) (stamp : Int) :
    (execute (.stampActive i stamp) t).1 = .ok 1 ∧
      (RefreshStore.table (execute (.stampActive i stamp) t).2).get? i =
        some { r with revokedAt := stamp } := by
  have hid : r.tokenId = i := RefreshStore.Sound.tokenId_of_get? (s := .table t) h hr
  have ha : isActive i r = true := isActive_iff.2 ⟨hid, hact⟩
  have hmem : r ∈ t.rows := (RefreshStore.Sound.mem_records_iff (s := .table t) h).2 (hid ▸ hr)
  rw [execute_stampActive h.isOpen, length_filter_isActive h.ids hmem ha, get?_map_stamped, hr,
    Option.map_some, stamped, if_pos ha]
  exact ⟨rfl, rfl⟩

/-! ## What is left of a call -/

/-- The call stamps no row with the id. -/
def Spares (i : String) : Script refreshStatements RefreshEvent → Prop
  | .done _ => True
  | .ask s next => (∀ stamp, s ≠ .stampActive i stamp) ∧ ∀ reply, Spares i (next reply)

/-- The refusal of a revocation that comes too late. -/
def tooLate (i : String) : RefreshEvent :=
  .revoke i (.error ⟨.sqlite, .revoke, .alreadyRevoked⟩)

/-- Whatever table with a revoked row under the id answers each statement, the call ends too
late. -/
def Loses (i : String) : Script refreshStatements RefreshEvent → Prop
  | .done e => e = tooLate i
  | .ask s next => ∀ (t : Table RefreshRecord) (r : RefreshRecord), Consistent t →
      (RefreshStore.table t).get? i = some r → r.isRevoked = true → Loses i (next (execute s t).1)

/-- Only a revocation stamps a row, and only the one with its id. -/
theorem spares_script {q : RefreshRequest} (hq : q.call ≠ .revoke i) : Spares i q.script := by
  obtain ⟨now, entropy, call⟩ := q
  cases call with
  | issue userId expires previous =>
    refine ⟨fun _ => nofun, fun reply => ?_⟩
    rcases (reply : Except StorageError Unit) with (_ | _) | _ <;> exact trivial
  | validate secret =>
    simp only [RefreshRequest.script, validate]
    split_ifs
    · exact trivial
    · refine ⟨fun _ => nofun, fun reply => ?_⟩
      rcases (reply : Except StorageError (Option RefreshRecord)) with _ | _ <;> exact trivial
  | revoke tokenId =>
    have hne : tokenId ≠ i := fun he => hq (by rw [he])
    refine ⟨fun stamp he => hne (RefreshStatement.stampActive.inj he).1, fun reply => ?_⟩
    rcases (reply : Except StorageError Nat) with _ | changed
    · exact trivial
    · simp only
      split_ifs
      · exact trivial
      · refine ⟨fun _ => nofun, fun reply => ?_⟩
        rcases (reply : Except StorageError (Option RefreshRecord)) with _ | _ | _ <;> exact trivial

/-- A revocation that begins when the row is revoked has lost. -/
theorem loses_script {q : RefreshRequest} (hq : q.call = .revoke i) : Loses i q.script := by
  obtain ⟨now, entropy, call⟩ := q
  obtain rfl : call = .revoke i := hq
  intro t r ht hr hrev
  have hid : r.tokenId = i := RefreshStore.Sound.tokenId_of_get? (s := .table t) ht hr
  have hnone : ∀ p ∈ t.rows, isActive i p = false := fun p hp => by
    rw [Bool.eq_false_iff, ne_eq, isActive_iff]
    rintro ⟨hpi, hact⟩
    have hget := (RefreshStore.Sound.mem_records_iff (s := .table t) ht).1 hp
    rw [hpi, hr] at hget
    rw [← Option.some.inj hget, hrev] at hact
    cases hact
  rw [RefreshStore.execute_stampActive_of_none ht.isOpen hnone]
  intro t' r' ht' hr' _
  rw [execute_selectById ht'.isOpen, hr']
  rfl

/-! ## Traffic -/

/-- A table, and what is left of each call on it. -/
structure Traffic where
  table : Table RefreshRecord
  calls : List (Script refreshStatements RefreshEvent)

namespace Traffic

/-- No call has had a statement. -/
def start (t : Table RefreshRecord) (requests : List RefreshRequest) : Traffic :=
  ⟨t, requests.map (·.script)⟩

/-- The next statement of a call, if there is one. -/
def step (p : Traffic) (k : ℕ) : Traffic :=
  match p.calls[k]? with
  | some (.ask s next) => ⟨(execute s p.table).2, p.calls.set k (next (execute s p.table).1)⟩
  | _ => p

/-- One statement after the other. -/
def run (p : Traffic) (schedule : List ℕ) : Traffic := schedule.foldl step p

/-- The table and the calls after a schedule of statements. -/
def after (t : Table RefreshRecord) (requests : List RefreshRequest) (schedule : List ℕ) :
    Traffic :=
  (start t requests).run schedule

/-- Further calls begin. -/
def join (p : Traffic) (later : List RefreshRequest) : Traffic :=
  { p with calls := p.calls ++ later.map (·.script) }

/-- What a call that is over was answered. -/
def answer? (p : Traffic) (k : ℕ) : Option RefreshEvent :=
  match p.calls[k]? with
  | some (.done e) => some e
  | _ => none

theorem answer?_of_done {p : Traffic} {k : ℕ} {e : RefreshEvent}
    (h : p.calls[k]? = some (.done e)) : p.answer? k = some e := by
  rw [answer?, h]

/-- A step of one call runs its next statement, or there is none and nothing happens. -/
theorem step_cases (p : Traffic) (k : ℕ) :
    p.step k = p ∨ ∃ s next, p.calls[k]? = some (.ask s next) ∧
      p.step k = ⟨(execute s p.table).2, p.calls.set k (next (execute s p.table).1)⟩ := by
  unfold step
  split
  · rename_i s next hc
    exact Or.inr ⟨s, next, hc, rfl⟩
  · exact Or.inl rfl

/-- The active row is as it was, and no revocation of it has had a statement. -/
structure Waiting (r : RefreshRecord) (requests : List RefreshRequest) (p : Traffic) : Prop where
  consistent : Consistent p.table
  row : (RefreshStore.table p.table).get? r.tokenId = some r
  revocations : ∀ {k : ℕ} {q : RefreshRequest}, requests[k]? = some q → q.call = .revoke r.tokenId →
    p.calls[k]? = some q.script
  others : ∀ {k : ℕ} {c}, p.calls[k]? = some c →
    (∃ q, requests[k]? = some q ∧ q.call = .revoke r.tokenId) ∨ Spares r.tokenId c

/-- Revocation `w` has stamped the row, and the other revocations of it are bound to lose. -/
structure Won (r : RefreshRecord) (requests : List RefreshRequest) (w : ℕ) (now : Int)
    (p : Traffic) : Prop where
  consistent : Consistent p.table
  row : (RefreshStore.table p.table).get? r.tokenId = some (r.revoke now)
  winner : p.calls[w]? = some (.done (.revoke r.tokenId (.ok ())))
  losers : ∀ {k : ℕ} {q : RefreshRequest}, k ≠ w → requests[k]? = some q →
    q.call = .revoke r.tokenId → ∃ c, p.calls[k]? = some c ∧ Loses r.tokenId c

variable {requests : List RefreshRequest} {p : Traffic} {w : ℕ} {now : Int}

/-- At first nobody has run a statement, and the row is there. -/
theorem waiting_start (ht : Consistent t) (hr : r ∈ t.rows) :
    Waiting r requests (start t requests) where
  consistent := ht
  row := (RefreshStore.Sound.mem_records_iff (s := .table t) ht).1 hr
  revocations {k q} hk _ := by
    rw [start, List.getElem?_map, hk]
    rfl
  others {k c} hc := by
    rw [start, List.getElem?_map] at hc
    obtain ⟨q, hq, rfl⟩ := Option.map_eq_some_iff.1 hc
    by_cases hrev : q.call = .revoke r.tokenId
    · exact Or.inl ⟨q, hq, hrev⟩
    · exact Or.inr (spares_script hrev)

/-- The row goes on waiting, or the call whose statement it was has won. -/
theorem Waiting.step (h : Waiting r requests p) (hact : r.isRevoked = false) (k : ℕ) :
    Waiting r requests (p.step k) ∨ ∃ q, requests[k]? = some q ∧ q.call = .revoke r.tokenId ∧
      Won r requests k q.now.seconds (p.step k) := by
  rcases step_cases p k with heq | ⟨s, next, hc, heq⟩
  · rw [heq]
    exact Or.inl h
  have hlt := (List.getElem?_eq_some_iff.1 hc).1
  rcases h.others hc with ⟨q, hq, hrev⟩ | hspares
  · refine Or.inr ⟨q, hq, hrev, ?_⟩
    have hscript := hc.symm.trans (h.revocations hq hrev)
    obtain ⟨now, entropy, call⟩ := q
    obtain rfl : call = .revoke r.tokenId := hrev
    obtain ⟨rfl, hnext⟩ := Script.ask.inj (Option.some.inj hscript)
    obtain ⟨hone, hrow⟩ := execute_stampActive_of_active h.consistent h.row hact (max now.seconds 1)
    rw [heq]
    refine ⟨h.consistent.execute _, hrow, ?_, fun {j q'} hj hq' hrev' => ?_⟩
    · rw [List.getElem?_set_self hlt, eq_of_heq hnext, hone]
      rfl
    · exact ⟨q'.script, (List.getElem?_set_ne hj.symm).trans (h.revocations hq' hrev'),
        loses_script hrev'⟩
  · refine Or.inl ?_
    have hrow : (RefreshStore.table (execute s p.table).2).get? r.tokenId = some r := by
      rcases get?_execute h.consistent h.row s with hrow | ⟨-, stamp, rfl⟩
      · exact hrow
      · exact absurd rfl (hspares.1 stamp)
    rw [heq]
    refine ⟨h.consistent.execute s, hrow, fun {j q'} hq' hrev' => ?_, fun {j c} hj => ?_⟩
    · have hne : k ≠ j := by
        rintro rfl
        have hscript := hc.symm.trans (h.revocations hq' hrev')
        obtain ⟨now, entropy, call⟩ := q'
        obtain rfl : call = .revoke r.tokenId := hrev'
        obtain ⟨rfl, -⟩ := Script.ask.inj (Option.some.inj hscript)
        exact hspares.1 _ rfl
      exact (List.getElem?_set_ne hne).trans (h.revocations hq' hrev')
    · rcases eq_or_ne k j with rfl | hne
      · obtain rfl := Option.some.inj ((List.getElem?_set_self hlt).symm.trans hj)
        exact Or.inr (hspares.2 _)
      · exact h.others ((List.getElem?_set_ne hne).symm.trans hj)

/-- A revocation that has won stays the winner. -/
theorem Won.step (h : Won r requests w now p) (k : ℕ) : Won r requests w now (p.step k) := by
  rcases step_cases p k with heq | ⟨s, next, hc, heq⟩
  · rwa [heq]
  have hlt := (List.getElem?_eq_some_iff.1 hc).1
  have hrev := r.isRevoked_revoke now
  have hkw : k ≠ w := by
    rintro rfl
    cases Option.some.inj (hc.symm.trans h.winner)
  rw [heq]
  refine ⟨h.consistent.execute s, get?_execute_of_isRevoked h.consistent h.row hrev s,
    (List.getElem?_set_ne hkw).trans h.winner, fun {j q} hj hq hcall => ?_⟩
  obtain ⟨c, hjc, hloses⟩ := h.losers hj hq hcall
  rcases eq_or_ne k j with rfl | hne
  · obtain rfl := Option.some.inj (hc.symm.trans hjc)
    exact ⟨_, List.getElem?_set_self hlt, hloses _ _ h.consistent h.row hrev⟩
  · exact ⟨c, (List.getElem?_set_ne hne).trans hjc, hloses⟩

/-- Who has won stays so, under any schedule. -/
theorem Won.run (schedule : List ℕ) (h : Won r requests w now p) :
    Won r requests w now (p.run schedule) :=
  List.foldlRecOn schedule Traffic.step h fun _ hp k _ => hp.step k

/-- The row is waiting after a run, or one of the revocations has won. -/
theorem Waiting.run (hact : r.isRevoked = false) (schedule : List ℕ) (h : Waiting r requests p) :
    Waiting r requests (p.run schedule) ∨ ∃ w q, requests[w]? = some q ∧
      q.call = .revoke r.tokenId ∧ Won r requests w q.now.seconds (p.run schedule) := by
  induction schedule generalizing p with
  | nil => exact Or.inl h
  | cons k schedule ih =>
    rcases h.step hact k with hstep | ⟨q, hq, hrev, hwon⟩
    · exact ih hstep
    · exact Or.inr ⟨k, q, hq, hrev, hwon.run schedule⟩

/-- Calls that begin later do not change who has won. -/
theorem Won.join (h : Won r requests w now p) (hlen : p.calls.length = requests.length)
    (later : List RefreshRequest) : Won r (requests ++ later) w now (p.join later) where
  consistent := h.consistent
  row := h.row
  winner := by
    have hlt := (List.getElem?_eq_some_iff.1 h.winner).1
    exact (List.getElem?_append_left hlt).trans h.winner
  losers {k q} hk hq hcall := by
    rcases Nat.lt_or_ge k requests.length with hlt | hge
    · rw [List.getElem?_append_left hlt] at hq
      obtain ⟨c, hc, hloses⟩ := h.losers hk hq hcall
      exact ⟨c, (List.getElem?_append_left (hlen ▸ hlt)).trans hc, hloses⟩
    · rw [List.getElem?_append_right hge] at hq
      refine ⟨q.script, ?_, loses_script hcall⟩
      rw [Traffic.join, List.getElem?_append_right (hlen ▸ hge), List.getElem?_map, hlen, hq]
      rfl

theorem length_calls_step (p : Traffic) (k : ℕ) : (p.step k).calls.length = p.calls.length := by
  rcases step_cases p k with heq | ⟨s, next, -, heq⟩ <;> simp [heq]

theorem length_calls_run (schedule : List ℕ) (p : Traffic) :
    (p.run schedule).calls.length = p.calls.length :=
  List.foldlRecOn (motive := fun p' => p'.calls.length = p.calls.length) schedule Traffic.step rfl
    fun p' hp' k _ => (length_calls_step p' k).trans hp'

/-- Whoever has not won and is done was too late. -/
theorem Won.answer?_eq (h : Won r requests w now p) {k : ℕ} {q : RefreshRequest} (hk : k ≠ w)
    (hq : requests[k]? = some q) (hcall : q.call = .revoke r.tokenId) {e : RefreshEvent}
    (he : p.answer? k = some e) : e = tooLate r.tokenId := by
  obtain ⟨c, hc, hloses⟩ := h.losers hk hq hcall
  rw [answer?, hc] at he
  cases c with
  | done e' =>
    obtain rfl : e' = e := Option.some.inj he
    exact hloses
  | ask s next => cases he

/-- Among the revocations of an active row, once they are over, one has won and the others were too
late, whatever else is issued, validated and revoked in between. The second of the stamp is the
winner's, and no statement of any call, then or later, changes it. -/
theorem exists_one_winner (ht : Consistent t) (hr : r ∈ t.rows) (hact : r.isRevoked = false)
    (hasked : ∃ q ∈ requests, q.call = .revoke r.tokenId) {schedule : List ℕ}
    (hdone : ∀ (k : ℕ) (q : RefreshRequest), requests[k]? = some q → q.call = .revoke r.tokenId →
      ∃ e, (after t requests schedule).answer? k = some e) :
    ∃ w q, requests[w]? = some q ∧ q.call = .revoke r.tokenId ∧
      (after t requests schedule).answer? w = some (.revoke r.tokenId (.ok ())) ∧
      (∀ (k : ℕ) (q' : RefreshRequest), k ≠ w → requests[k]? = some q' →
        q'.call = .revoke r.tokenId →
        (after t requests schedule).answer? k =
          some (.revoke r.tokenId (.error ⟨.sqlite, .revoke, .alreadyRevoked⟩))) ∧
      ∀ later more,
        (((after t requests schedule).join later).run more).table.rows.find?
          (fun row => row.tokenId == r.tokenId) =
            some { r with revokedAt := max q.now.seconds 1 } := by
  have hlen : (after t requests schedule).calls.length = requests.length := by
    rw [after, length_calls_run, start, List.length_map]
  rcases (waiting_start ht hr).run hact schedule with hwaiting | ⟨w, q, hq, hcall, hwon⟩
  · -- a revocation that is over has had a statement
    obtain ⟨q, hmem, hcall⟩ := hasked
    obtain ⟨k, hk⟩ := List.mem_iff_getElem?.1 hmem
    obtain ⟨e, he⟩ := hdone k q hk hcall
    obtain ⟨now, entropy, call⟩ := q
    obtain rfl : call = .revoke r.tokenId := hcall
    rw [answer?, after, hwaiting.revocations hk rfl] at he
    cases he
  · refine ⟨w, q, hq, hcall, answer?_of_done hwon.winner, fun k q' hk hq' hcall' => ?_,
      fun later more => ((hwon.join hlen later).run more).row⟩
    obtain ⟨e, he⟩ := hdone k q' hq' hcall'
    rw [he, hwon.answer?_eq hk hq' hcall' he]
    rfl

/-- A row that two revoke. -/
def sharedRow : RefreshRecord := ⟨"T_1", "U_1", "H_1", 3600, 0, "", 0⟩

/-- Two revocations of one row, by clocks that differ, and two calls for other tokens. -/
def sharedRequests : List RefreshRequest :=
  [⟨.epoch, ⟨[], 0⟩, .revoke "T_1"⟩,
    ⟨(Instant.ofSeconds? 2).getD .epoch, ⟨[], 0⟩, .revoke "T_1"⟩,
    ⟨.epoch, ⟨[], 0⟩, .validate "S_2"⟩,
    ⟨.epoch, ⟨[], 0⟩, .issue "U_2" 3600 ""⟩]

theorem sharedRow_consistent : Consistent ⟨[sharedRow], true⟩ :=
  ⟨rfl, List.pairwise_singleton _ _, List.pairwise_singleton _ _⟩

/-- The first has won when the look at the row of the second comes behind the call of another. -/
theorem sharedRow_has_one_winner : ∃ w q, sharedRequests[w]? = some q ∧ q.call = .revoke "T_1" ∧
      (after ⟨[sharedRow], true⟩ sharedRequests [0, 1, 2, 1, 3]).answer? w =
        some (.revoke "T_1" (.ok ())) ∧
      (∀ (k : ℕ) (q' : RefreshRequest), k ≠ w → sharedRequests[k]? = some q' →
        q'.call = .revoke "T_1" →
        (after ⟨[sharedRow], true⟩ sharedRequests [0, 1, 2, 1, 3]).answer? k =
          some (.revoke "T_1" (.error ⟨.sqlite, .revoke, .alreadyRevoked⟩))) ∧
      ∀ later more,
        (((after ⟨[sharedRow], true⟩ sharedRequests [0, 1, 2, 1, 3]).join later).run
          more).table.rows.find? (fun row => row.tokenId == "T_1") =
            some { sharedRow with revokedAt := max q.now.seconds 1 } := by
  refine exists_one_winner (r := sharedRow) sharedRow_consistent (List.mem_singleton_self _) rfl
    ⟨_, List.mem_cons_self, rfl⟩ fun k q hk hcall => ?_
  match k, hk with
  | 0, _ => exact ⟨_, rfl⟩
  | 1, _ => exact ⟨_, rfl⟩
  | 2, hk =>
    cases hk
    cases hcall
  | 3, hk =>
    cases hk
    cases hcall

end Traffic

end RefreshTable

end SignIn
