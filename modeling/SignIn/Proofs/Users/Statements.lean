import Mathlib.Data.List.Pairwise
import SignIn.Proofs.Users.Known

/-!
# Users written down side by side

Many calls write users down in one table at once. Each is a script of two statements
(`UserTable.upsert`), the insert that turns into an update when the subject is known and the look at
the row afterwards, and in the traffic of a table (`UserTable.Traffic`) one statement of one call
follows another in any order.

The unique columns make the insert safe on its own : it leaves one row for the subject, with the new
details, and every other row as it was (`rowOf_of_upsert`), and no row ever loses its id, its
subject or its roles (`Keeps`). So the look of a call finds the row that its insert has left or
found, whoever came between, and all calls for a subject are answered alike (`Course`). Every
statement preserves this (`Traffic.Lawful.step`), hence every run (`one_account_per_subject`).
-/

namespace SignIn

/-- A call : the details of a user, and the id that was drawn for a new row. -/
structure UserUpsert where
  candidate : String
  details : UserDetails

/-- The statements of a call. -/
def UserUpsert.script (q : UserUpsert) :
    Script userStatements (Except UserError (String × List String)) :=
  UserTable.upsert q.candidate q.details

namespace UserRow

variable {r r' r'' : UserRow}

/-- The other row is of the same user : all but the details is the same. -/
structure SameUser (r r' : UserRow) : Prop where
  id : r'.id = r.id
  provider : r'.provider = r.provider
  subject : r'.subject = r.subject
  roles : r'.roles = r.roles

theorem SameUser.refl (r : UserRow) : r.SameUser r := ⟨rfl, rfl, rfl, rfl⟩

theorem SameUser.trans (h : r.SameUser r') (h' : r'.SameUser r'') : r.SameUser r'' :=
  ⟨h'.id.trans h.id, h'.provider.trans h.provider, h'.subject.trans h.subject,
    h'.roles.trans h.roles⟩

theorem sameUser_rewrite (d : UserDetails) (r : UserRow) : r.SameUser (r.rewrite d) := by
  unfold rewrite
  split_ifs
  · exact ⟨rfl, rfl, rfl, rfl⟩
  · exact .refl r

/-- The row of the same user is found under the same subjects. -/
theorem SameUser.hasSubject_eq (h : r.SameUser r') (subject : String) :
    hasSubject subject r' = hasSubject subject r := by
  rw [hasSubject, hasSubject, h.provider, h.subject]

/-- What a call is answered by the row : the id and the roles. -/
def answer (r : UserRow) : Except UserError (String × List String) :=
  r.profile.map fun p => (p.userId, p.roles)

/-- It answers the same. -/
theorem SameUser.answer_eq (h : r.SameUser r') : r'.answer = r.answer := by
  unfold answer profile
  rw [h.roles, h.id]
  cases roles? r.roles <;> rfl

theorem id_of_answer {id : String} {roles : List String} (h : r.answer = .ok (id, roles)) :
    r.id = id := by
  unfold answer profile at h
  split at h
  · exact (Prod.mk.inj (Except.ok.inj h)).1
  · cases h

/-- The row says the email, the name and the avatar of the details. -/
structure Shows (r : UserRow) (d : UserDetails) : Prop where
  email : r.email = d.email
  name : r.name.getD "" = d.displayName
  avatar : r.avatar.getD "" = d.avatarUrl

theorem shows_fresh (id : String) (d : UserDetails) : (fresh id d).Shows d :=
  ⟨rfl, getD_optional _, getD_optional _⟩

theorem shows_update (r : UserRow) (d : UserDetails) : (r.update d).Shows d :=
  ⟨rfl, getD_optional _, getD_optional _⟩

theorem hasSubject_fresh (id : String) (d : UserDetails) (subject : String) :
    hasSubject subject (fresh id d) = decide (d.subject = subject) := by
  simp [hasSubject, fresh, beq_eq_decide]

end UserRow

namespace UserTable

open UserRow (SameUser hasSubject)

variable {t t' t'' : Table UserRow} {subject : String} {r : UserRow}

/-! ## One statement -/

/-- The table keeps its constraints : the id is the primary key, and provider and subject together
are unique. -/
structure Consistent (t : Table UserRow) : Prop where
  ids : t.rows.Pairwise fun q r => q.id ≠ r.id
  subjects : t.rows.Pairwise fun q r => ¬(q.provider = r.provider ∧ q.subject = r.subject)

/-- The row of a subject. -/
def rowOf (t : Table UserRow) (subject : String) : Option UserRow :=
  t.rows.find? (hasSubject subject)

/-- Every user that has a row has one still, and the connection is as it was. -/
structure Keeps (t t' : Table UserRow) : Prop where
  users : ∀ r ∈ t.rows, ∃ r' ∈ t'.rows, r.SameUser r'
  isOpen : t'.isOpen = t.isOpen

theorem Keeps.refl (t : Table UserRow) : Keeps t t := ⟨fun r hr => ⟨r, hr, .refl r⟩, rfl⟩

theorem Keeps.trans (h : Keeps t t') (h' : Keeps t' t'') : Keeps t t'' := by
  refine ⟨fun r hr => ?_, h'.isOpen.trans h.isOpen⟩
  obtain ⟨r', hr', hsame⟩ := h.users r hr
  obtain ⟨r'', hr'', hsame'⟩ := h'.users r' hr'
  exact ⟨r'', hr'', hsame.trans hsame'⟩

/-- A row is found under a subject if and only if it is in the table and has the subject. -/
theorem Consistent.rowOf_eq_some_iff (h : Consistent t) :
    rowOf t subject = some r ↔ r ∈ t.rows ∧ hasSubject subject r = true := by
  refine ⟨fun hr => ⟨List.mem_of_find?_eq_some hr, List.find?_some hr⟩, fun ⟨hmem, hr⟩ => ?_⟩
  obtain ⟨q, hq⟩ : ∃ q, rowOf t subject = some q :=
    Option.isSome_iff_exists.1 (List.find?_isSome.2 ⟨r, hmem, hr⟩)
  rw [hq]
  have hqs := UserRow.hasSubject_iff.1 (List.find?_some hq)
  have hrs := UserRow.hasSubject_iff.1 hr
  have : Std.Symm fun q r : UserRow => ¬(q.provider = r.provider ∧ q.subject = r.subject) :=
    ⟨fun _ _ hn hs => hn ⟨hs.1.symm, hs.2.symm⟩⟩
  by_contra hne
  -- two rows of one subject
  exact h.subjects.forall (List.mem_of_find?_eq_some hq) hmem (fun heq => hne (congrArg some heq))
    ⟨hqs.1.trans hrs.1.symm, hqs.2.trans hrs.2.symm⟩

/-- The row of a subject stays that of the same user. -/
theorem Keeps.rowOf (hk : Keeps t t') (ht' : Consistent t') (hr : rowOf t subject = some r) :
    ∃ r', UserTable.rowOf t' subject = some r' ∧ r.SameUser r' := by
  obtain ⟨r', hr', hsame⟩ := hk.users r (List.mem_of_find?_eq_some hr)
  refine ⟨r', ht'.rowOf_eq_some_iff.2 ⟨hr', ?_⟩, hsame⟩
  rw [hsame.hasSubject_eq]
  exact List.find?_some hr

/-- Two rows with one id are of one subject. -/
theorem Consistent.subject_eq_of_id_eq (h : Consistent t) {s s' : String} {r r' : UserRow}
    (hr : rowOf t s = some r) (hr' : rowOf t s' = some r') (hid : r.id = r'.id) : s = s' := by
  have hsame : r = r' := by
    have : Std.Symm fun q r : UserRow => q.id ≠ r.id := ⟨fun _ _ hn => hn.symm⟩
    by_contra hne
    exact h.ids.forall (List.mem_of_find?_eq_some hr) (List.mem_of_find?_eq_some hr') hne hid
  have hs := (UserRow.hasSubject_iff.1 (List.find?_some hr)).2
  have hs' := (UserRow.hasSubject_iff.1 (List.find?_some hr')).2
  rw [← hs, hsame, hs']

/-- The row of a known subject, with the details. -/
def rewriteRows (t : Table UserRow) (d : UserDetails) : Table UserRow :=
  { t with rows := t.rows.map (UserRow.rewrite d) }

/-- One row more. -/
def addRow (t : Table UserRow) (r : UserRow) : Table UserRow := { t with rows := t.rows ++ [r] }

/-- All that the insert of a call can do to a table : nothing, a change of one row, or a new row. -/
theorem execute_upsert_cases (t : Table UserRow) (id : String) (d : UserDetails) :
    (∃ e, execute (.upsert id d) t = (.error e, t)) ∨
    (t.isOpen = true ∧ (∃ r, rowOf t d.subject = some r) ∧
      execute (.upsert id d) t = (.ok (), rewriteRows t d)) ∨
    (t.isOpen = true ∧ rowOf t d.subject = none ∧ (∀ r ∈ t.rows, r.id ≠ id) ∧
      execute (.upsert id d) t = (.ok (), addRow t (UserRow.fresh id d))) := by
  obtain ⟨rows, isOpen⟩ := t
  rcases Bool.eq_false_or_eq_true isOpen with rfl | rfl
  swap
  · exact Or.inl ⟨.closed, rfl⟩
  cases hr : rowOf ⟨rows, true⟩ d.subject with
  | some r => exact Or.inr (Or.inl ⟨rfl, ⟨r, rfl⟩, UserStore.execute_upsert_of_known hr id⟩)
  | none =>
    have hx := UserStore.execute_upsert_of_new hr id
    by_cases hid : (rows.any fun r => r.id == id) = true
    · rw [if_pos hid] at hx
      exact Or.inl ⟨_, hx⟩
    · rw [if_neg hid] at hx
      exact Or.inr (Or.inr ⟨rfl, rfl, by simpa using hid, hx⟩)

theorem execute_select (ht : t.isOpen = true) (subject : String) :
    execute (.selectBySubject subject) t = (.ok (rowOf t subject), t) := by
  obtain ⟨rows, isOpen⟩ := t
  obtain rfl : isOpen = true := ht
  rfl

/-- Rewriting keeps ids and subjects apart, since it changes neither. -/
theorem Consistent.rewriteRows (ht : Consistent t) (d : UserDetails) :
    Consistent (rewriteRows t d) where
  ids := List.pairwise_map.2 (ht.ids.imp fun hne => by
    rwa [UserRow.id_rewrite, UserRow.id_rewrite])
  subjects := List.pairwise_map.2 (ht.subjects.imp fun {q r} hne => by
    rwa [(UserRow.sameUser_rewrite d q).provider, (UserRow.sameUser_rewrite d r).provider,
      (UserRow.sameUser_rewrite d q).subject, (UserRow.sameUser_rewrite d r).subject])

/-- So does adding a row whose subject and id are new. -/
theorem Consistent.addRow (ht : Consistent t) {id : String} {d : UserDetails}
    (hsubject : rowOf t d.subject = none) (hid : ∀ r ∈ t.rows, r.id ≠ id) :
    Consistent (addRow t (UserRow.fresh id d)) where
  ids := List.pairwise_append.2 ⟨ht.ids, List.pairwise_singleton _ _, fun q hq r hr => by
    rw [List.mem_singleton.1 hr]
    exact hid q hq⟩
  subjects := List.pairwise_append.2 ⟨ht.subjects, List.pairwise_singleton _ _, fun q hq r hr => by
    rw [List.mem_singleton.1 hr]
    exact fun hs => List.find?_eq_none.1 hsubject q hq (UserRow.hasSubject_iff.2 hs)⟩

theorem keeps_rewriteRows (t : Table UserRow) (d : UserDetails) : Keeps t (rewriteRows t d) :=
  ⟨fun r hr => ⟨r.rewrite d, List.mem_map_of_mem hr, UserRow.sameUser_rewrite d r⟩, rfl⟩

theorem keeps_addRow (t : Table UserRow) (r : UserRow) : Keeps t (addRow t r) :=
  ⟨fun q hq => ⟨q, List.mem_append_left _ hq, .refl q⟩, rfl⟩

/-- A statement keeps the constraints and every user. -/
theorem Consistent.execute_upsert (ht : Consistent t) (id : String) (d : UserDetails) :
    Consistent (execute (.upsert id d) t).2 ∧ Keeps t (execute (.upsert id d) t).2 := by
  rcases execute_upsert_cases t id d with ⟨e, hx⟩ | ⟨-, -, hx⟩ | ⟨-, hsubject, hid, hx⟩
  · rw [hx]
    exact ⟨ht, .refl t⟩
  · rw [hx]
    exact ⟨ht.rewriteRows d, keeps_rewriteRows t d⟩
  · rw [hx]
    exact ⟨ht.addRow hsubject hid, keeps_addRow t _⟩

/-- After an insert that succeeds the row of the subject says the new details, and the rows of the
other subjects are as they were. -/
theorem rowOf_of_upsert {id : String} {d : UserDetails}
    (hx : execute (.upsert id d) t = (.ok (), t')) :
    t'.isOpen = true ∧ (∃ r, rowOf t' d.subject = some r ∧ r.Shows d) ∧
      ∀ subject, subject ≠ d.subject → rowOf t' subject = rowOf t subject := by
  rcases execute_upsert_cases t id d with ⟨e, he⟩ | ⟨hopen, ⟨r, hr⟩, ho⟩ | ⟨hopen, hnone, -, ho⟩
  · cases he.symm.trans hx
  · obtain rfl : rewriteRows t d = t' := (Prod.mk.inj (ho.symm.trans hx)).2
    have hrow (subject : String) : rowOf (rewriteRows t d) subject =
        (rowOf t subject).map (UserRow.rewrite d) := UserStore.find?_map_rewrite t.rows d subject
    refine ⟨hopen, ⟨r.update d, ?_, r.shows_update d⟩, fun subject hne => ?_⟩
    · rw [hrow, hr, Option.map_some, UserRow.rewrite, if_pos (List.find?_some hr)]
    · rw [hrow]
      cases hq : rowOf t subject with
      | none => rfl
      | some q => rw [Option.map_some, UserRow.rewrite_of_ne (List.find?_some hq) hne]
  · obtain rfl : addRow t (UserRow.fresh id d) = t' := (Prod.mk.inj (ho.symm.trans hx)).2
    have hrow (subject : String) : rowOf (addRow t (UserRow.fresh id d)) subject =
        (rowOf t subject).or (if d.subject = subject then some (UserRow.fresh id d) else none) := by
      simp only [rowOf, addRow, List.find?_append, List.find?_singleton, UserRow.hasSubject_fresh,
        decide_eq_true_eq]
    refine ⟨hopen, ⟨UserRow.fresh id d, ?_, UserRow.shows_fresh id d⟩, fun subject hne => ?_⟩
    · rw [hrow, hnone, if_pos rfl, Option.none_or]
    · rw [hrow, if_neg hne.symm, Option.or_none]

/-! ## What is left of a call -/

/-- The call after its insert : the look at the row. -/
def looking (subject : String) : Script userStatements (Except UserError (String × List String)) :=
  .ask (.selectBySubject subject) fun row =>
    .done ((found (.storage .noRow) row).map fun p => (p.userId, p.roles))

/-- Where a call stands in a table, and whether its insert has succeeded. -/
inductive Course (t : Table UserRow) (q : UserUpsert) (inserted : Prop) :
    Script userStatements (Except UserError (String × List String)) → Prop
  | waiting (before : ¬inserted) : Course t q inserted q.script
  | refused {e : StorageError} (never : ¬inserted) :
    Course t q inserted (.done (.error (.storage e)))
  | looking {r : UserRow} (done : inserted) (isOpen : t.isOpen = true)
      (row : rowOf t q.details.subject = some r) : Course t q inserted (looking q.details.subject)
  | answered {r : UserRow} (done : inserted) (row : rowOf t q.details.subject = some r) :
      Course t q inserted (.done r.answer)

/-- What others do changes nothing for a call. -/
theorem Course.keep {q : UserUpsert} {inserted : Prop} {c} (h : Course t q inserted c)
    (hk : Keeps t t') (ht' : Consistent t') : Course t' q inserted c := by
  cases h with
  | waiting before => exact .waiting before
  | refused never => exact .refused never
  | looking done isOpen row =>
    obtain ⟨r', hr', -⟩ := hk.rowOf ht' row
    exact .looking done (hk.isOpen.trans isOpen) hr'
  | answered done row =>
    obtain ⟨r', hr', hsame⟩ := hk.rowOf ht' row
    rw [← hsame.answer_eq]
    exact .answered done hr'

/-- What a statement has written, if it is an insert that has succeeded. -/
def wrote? : (s : UserStatement) → s.Reply → Option UserDetails
  | .upsert _ d, .ok () => some d
  | _, _ => none

/-! ## Traffic -/

/-- A table, what is left of each call on it, and the calls whose insert has succeeded with the
details that it wrote, the latest first. -/
structure Traffic where
  table : Table UserRow
  calls : List (Script userStatements (Except UserError (String × List String)))
  written : List (ℕ × UserDetails)

namespace Traffic

/-- No call has had a statement. -/
def start (t : Table UserRow) (requests : List UserUpsert) : Traffic :=
  ⟨t, requests.map (·.script), []⟩

/-- The next statement of a call, if there is one. -/
def step (p : Traffic) (k : ℕ) : Traffic :=
  match p.calls[k]? with
  | some (.ask s next) =>
    ⟨(execute s p.table).2, p.calls.set k (next (execute s p.table).1),
      ((wrote? s (execute s p.table).1).map fun d => (k, d)).toList ++ p.written⟩
  | _ => p

/-- One statement after the other. -/
def run (p : Traffic) (schedule : List ℕ) : Traffic := schedule.foldl step p

/-- The table and the calls after a schedule of statements. -/
def after (t : Table UserRow) (requests : List UserUpsert) (schedule : List ℕ) : Traffic :=
  (start t requests).run schedule

/-- What a call that is over was answered. -/
def answer? (p : Traffic) (k : ℕ) : Option (Except UserError (String × List String)) :=
  match p.calls[k]? with
  | some (.done a) => some a
  | _ => none

/-- The insert of a call has succeeded. -/
def HasInserted (p : Traffic) (k : ℕ) : Prop := ∃ d, (k, d) ∈ p.written

/-- The call whose insert was the last to succeed for a subject, and what it wrote. -/
def last? (p : Traffic) (subject : String) : Option (ℕ × UserDetails) :=
  p.written.find? fun w => w.2.subject == subject

variable {requests : List UserUpsert} {p : Traffic} {k : ℕ}

theorem answer?_eq_some_iff {a : Except UserError (String × List String)} :
    p.answer? k = some a ↔ p.calls[k]? = some (.done a) := by
  unfold answer?
  split
  · simp_all
  · rename_i hne
    exact ⟨nofun, fun h => absurd h (hne a)⟩

/-- The constraints are kept, every call is on its course, and the row of a subject says what was
written last. -/
structure Lawful (requests : List UserUpsert) (p : Traffic) : Prop where
  consistent : Consistent p.table
  course : ∀ {k q}, requests[k]? = some q →
    ∃ c, p.calls[k]? = some c ∧ Course p.table q (p.HasInserted k) c
  length : p.calls.length = requests.length
  origin : ∀ {k d}, (k, d) ∈ p.written → ∃ q, requests[k]? = some q ∧ q.details = d
  latest : ∀ {subject k d}, p.last? subject = some (k, d) →
    ∃ r, rowOf p.table subject = some r ∧ r.Shows d

/-- At first no call has run a statement. -/
theorem lawful_start (ht : Consistent t) (requests : List UserUpsert) :
    Lawful requests (start t requests) where
  consistent := ht
  course {k q} hk := by
    refine ⟨q.script, ?_, .waiting fun ⟨d, hd⟩ => List.not_mem_nil hd⟩
    rw [start, List.getElem?_map, hk, Option.map_some]
  length := List.length_map _
  origin hmem := absurd hmem List.not_mem_nil
  latest h := by cases h

/-- A statement that writes nothing down and leaves the table as it is takes its call further on its
course. -/
theorem Lawful.silent (h : Lawful requests p) {q : UserUpsert} (hq : requests[k]? = some q) {c}
    (hc : Course p.table q (p.HasInserted k) c) :
    Lawful requests { p with calls := p.calls.set k c } where
  consistent := h.consistent
  course {j q'} hj := by
    obtain ⟨c', hc', hcourse⟩ := h.course hj
    rcases eq_or_ne k j with rfl | hne
    · obtain rfl : q = q' := Option.some.inj (hq.symm.trans hj)
      exact ⟨c, List.getElem?_set_self (List.getElem?_eq_some_iff.1 hc').1, hc⟩
    · exact ⟨c', (List.getElem?_set_ne hne).trans hc', hcourse⟩
  length := (List.length_set ..).trans h.length
  origin := h.origin
  latest := h.latest

/-- An insert that succeeds. -/
theorem Lawful.inserted (h : Lawful requests p) {q : UserUpsert} (hq : requests[k]? = some q)
    (hx : execute (.upsert q.candidate q.details) p.table = (.ok (), t')) :
    Lawful requests ⟨t', p.calls.set k (looking q.details.subject),
      (k, q.details) :: p.written⟩ := by
  have hkept := h.consistent.execute_upsert q.candidate q.details
  rw [hx] at hkept
  obtain ⟨ht', hk⟩ := hkept
  obtain ⟨hopen, ⟨r, hr, hshows⟩, hother⟩ := rowOf_of_upsert hx
  refine ⟨ht', fun {j q'} hj => ?_, (List.length_set ..).trans h.length, fun {j d} hmem => ?_,
    fun {subject j d} hlast => ?_⟩
  · obtain ⟨c', hc', hcourse⟩ := h.course hj
    rcases eq_or_ne k j with rfl | hne
    · obtain rfl : q = q' := Option.some.inj (hq.symm.trans hj)
      exact ⟨_, List.getElem?_set_self (List.getElem?_eq_some_iff.1 hc').1,
        .looking ⟨_, List.mem_cons_self⟩ hopen hr⟩
    · refine ⟨c', (List.getElem?_set_ne hne).trans hc', ?_⟩
      have hsame : HasInserted ⟨t', p.calls.set k (UserTable.looking q.details.subject),
          (k, q.details) :: p.written⟩ j ↔ p.HasInserted j := by
        simp [HasInserted, hne.symm]
      rw [hsame]
      exact hcourse.keep hk ht'
  · rcases List.mem_cons.1 hmem with heq | hmem
    · obtain ⟨rfl, rfl⟩ := Prod.mk.inj heq
      exact ⟨q, hq, rfl⟩
    · exact h.origin hmem
  · by_cases hs : q.details.subject = subject
    · rw [last?, List.find?_cons_of_pos (by simpa using hs)] at hlast
      obtain ⟨-, rfl⟩ := Prod.mk.inj (Option.some.inj hlast)
      exact ⟨r, hs ▸ hr, hshows⟩
    · rw [last?, List.find?_cons_of_neg (by simpa using hs)] at hlast
      rw [hother subject (Ne.symm hs)]
      exact h.latest hlast

/-- A statement of a call that is on its course keeps all calls on theirs, and every user. -/
theorem Lawful.step (h : Lawful requests p) (k : ℕ) :
    Lawful requests (p.step k) ∧ Keeps p.table (p.step k).table := by
  unfold Traffic.step
  split
  swap
  · exact ⟨h, .refl _⟩
  rename_i s next hc
  obtain ⟨q, hq⟩ : ∃ q, requests[k]? = some q := by
    refine ⟨_, List.getElem?_eq_getElem ?_⟩
    rw [← h.length]
    exact (List.getElem?_eq_some_iff.1 hc).1
  obtain ⟨c, hc', hcourse⟩ := h.course hq
  obtain rfl : c = .ask s next := Option.some.inj (hc'.symm.trans hc)
  generalize hscript : (Script.ask s next : Script userStatements _) = c at hcourse
  cases hcourse with
  | refused never => cases hscript
  | answered done row => cases hscript
  | looking done isOpen row =>
    obtain ⟨rfl, hnext⟩ := Script.ask.inj hscript
    obtain rfl := eq_of_heq hnext
    rw [execute_select isOpen, row]
    exact ⟨h.silent hq (.answered done row), .refl _⟩
  | waiting before =>
    obtain ⟨rfl, hnext⟩ := Script.ask.inj hscript
    obtain rfl := eq_of_heq hnext
    have hkept := (h.consistent.execute_upsert q.candidate q.details).2
    rcases execute_upsert_cases p.table q.candidate q.details with
      ⟨e, hx⟩ | ⟨-, -, hx⟩ | ⟨-, -, -, hx⟩
    · rw [hx]
      exact ⟨h.silent hq (.refused before), .refl _⟩
    · rw [hx] at hkept ⊢
      exact ⟨h.inserted hq hx, hkept⟩
    · rw [hx] at hkept ⊢
      exact ⟨h.inserted hq hx, hkept⟩

/-- The calls stay lawful under any schedule, and no row is lost. -/
theorem Lawful.run (schedule : List ℕ) : ∀ {p : Traffic}, Lawful requests p →
    Lawful requests (p.run schedule) ∧ Keeps p.table (p.run schedule).table := by
  induction schedule with
  | nil => exact fun h => ⟨h, .refl _⟩
  | cons k schedule ih =>
    intro p h
    obtain ⟨hstep, hkept⟩ := h.step k
    obtain ⟨hrun, hkept'⟩ := ih hstep
    exact ⟨hrun, hkept.trans hkept'⟩

/-- A call that is over was answered by the row of its subject, unless its insert was refused. -/
theorem Lawful.answer_cases (h : Lawful requests p) {q : UserUpsert} (hq : requests[k]? = some q)
    {a : Except UserError (String × List String)} (ha : p.answer? k = some a) :
    (¬p.HasInserted k ∧ ∃ e, a = .error (.storage e)) ∨
      (p.HasInserted k ∧ ∃ r, rowOf p.table q.details.subject = some r ∧ a = r.answer) := by
  obtain ⟨c, hc, hcourse⟩ := h.course hq
  rw [answer?_eq_some_iff, hc, Option.some_inj] at ha
  subst ha
  generalize hscript : (Script.done a : Script userStatements _) = c at hcourse
  cases hcourse with
  | waiting before => cases hscript
  | looking done isOpen row => cases hscript
  | refused never => exact Or.inl ⟨never, _, Script.done.inj hscript⟩
  | answered done row => exact Or.inr ⟨done, _, row, Script.done.inj hscript⟩

/-- Calls that write users down in one table, one statement of one call after another in any order :
no subject ever has two rows, no row ever has another id, and two calls that succeed are answered
the same id exactly if they are for the same subject. The row of a subject says what the insert that
succeeded last for it has written.

A call whose insert succeeded is answered the id and the roles of the row, and no other call
succeeds. -/
theorem one_account_per_subject (ht : Consistent t) (requests : List UserUpsert)
    (schedule : List ℕ) :
    let p := after t requests schedule
    (p.table.rows.Pairwise fun q r => ¬(q.provider = r.provider ∧ q.subject = r.subject)) ∧
    (∀ more, ∀ r ∈ p.table.rows, ∃ r' ∈ (p.run more).table.rows,
      r'.provider = r.provider ∧ r'.subject = r.subject ∧ r'.id = r.id) ∧
    (∀ j k q q' id id' roles roles', requests[j]? = some q → requests[k]? = some q' →
      p.answer? j = some (.ok (id, roles)) → p.answer? k = some (.ok (id', roles')) →
      (id = id' ↔ q.details.subject = q'.details.subject)) ∧
    (∀ subject k d, p.last? subject = some (k, d) →
      (∃ q, requests[k]? = some q ∧ q.details = d) ∧
      ∃ r ∈ p.table.rows, r.provider = providerName ∧ r.subject = subject ∧ r.email = d.email ∧
        r.name.getD "" = d.displayName ∧ r.avatar.getD "" = d.avatarUrl) ∧
    ∀ k q a, requests[k]? = some q → p.answer? k = some a →
      (p.HasInserted k → ∃ r, rowOf p.table q.details.subject = some r ∧
        a = r.profile.map fun profile => (profile.userId, profile.roles)) ∧
      (¬p.HasInserted k → ∃ e, a = .error (.storage e)) := by
  intro p
  obtain ⟨h, -⟩ : Lawful requests p ∧ _ := (lawful_start ht requests).run schedule
  refine ⟨h.consistent.subjects, fun more r hr => ?_,
    fun j k q q' id id' roles roles' hj hk haj hak => ?_,
    fun subject k d hlast => ⟨h.origin (List.mem_of_find?_eq_some hlast), ?_⟩,
    fun k q a hk ha => ?_⟩
  · obtain ⟨r', hr', hsame⟩ := (h.run more).2.users r hr
    exact ⟨r', hr', hsame.provider, hsame.subject, hsame.id⟩
  · -- either answer is by the row of the subject, and rows of two subjects have two ids
    obtain ⟨-, e, he⟩ | ⟨-, r, hr, hra⟩ := h.answer_cases hj haj
    · cases he
    obtain ⟨-, e, he⟩ | ⟨-, r', hr', hra'⟩ := h.answer_cases hk hak
    · cases he
    have hid := UserRow.id_of_answer hra.symm
    have hid' := UserRow.id_of_answer hra'.symm
    constructor
    · rintro rfl
      exact h.consistent.subject_eq_of_id_eq hr hr' (hid.trans hid'.symm)
    · intro hs
      rw [hs, hr'] at hr
      rw [← hid, ← hid', Option.some.inj hr]
  · obtain ⟨r, hr, hshows⟩ := h.latest hlast
    obtain ⟨hmem, hsubject⟩ := h.consistent.rowOf_eq_some_iff.1 hr
    obtain ⟨hprovider, hsubject⟩ := UserRow.hasSubject_iff.1 hsubject
    exact ⟨r, hmem, hprovider, hsubject, hshows.email, hshows.name, hshows.avatar⟩
  · obtain ⟨never, he⟩ | ⟨done, hr⟩ := h.answer_cases hk ha
    · exact ⟨fun done => absurd done never, fun _ => he⟩
    · exact ⟨fun _ => hr, fun never => absurd done never⟩

/-- Ada signs in for the first time on two devices at once, and Bob with an id that Ada has been
given. -/
def firstLogins : List UserUpsert :=
  [⟨"u_1", ⟨"ada", "ada@work.example", "Ada", ""⟩⟩,
    ⟨"u_2", ⟨"ada", "ada@home.example", "Ada L", ""⟩⟩,
    ⟨"u_1", ⟨"bob", "bob@work.example", "Bob", ""⟩⟩,
    ⟨"u_3", ⟨"bob", "bob@work.example", "", ""⟩⟩]

theorem consistent_empty : Consistent .empty := ⟨List.Pairwise.nil, List.Pairwise.nil⟩

/-- All inserts come before the first look at a row. -/
theorem firstLogins_share_accounts :
    let p := after .empty firstLogins [0, 1, 2, 3, 0, 1, 3]
    p.answer? 0 = some (.ok ("u_1", [defaultRole])) ∧
    p.answer? 1 = some (.ok ("u_1", [defaultRole])) ∧
    p.answer? 2 = some (.error (.storage (.taken "users.id"))) ∧
    p.answer? 3 = some (.ok ("u_3", [defaultRole])) ∧
    (p.table.rows.Pairwise fun q r => ¬(q.provider = r.provider ∧ q.subject = r.subject)) ∧
    ∃ r ∈ p.table.rows, r.provider = providerName ∧ r.subject = "ada" ∧
      r.email = "ada@home.example" ∧ r.name.getD "" = "Ada L" ∧ r.avatar.getD "" = "" := by
  obtain ⟨hrows, -, -, hlast, -⟩ :=
    one_account_per_subject consistent_empty firstLogins [0, 1, 2, 3, 0, 1, 3]
  exact ⟨by decide +kernel, by decide +kernel, by decide +kernel, by decide +kernel, hrows,
    (hlast "ada" 1 ⟨"ada", "ada@home.example", "Ada L", ""⟩ (by decide +kernel)).2⟩

end Traffic

end UserTable

end SignIn
