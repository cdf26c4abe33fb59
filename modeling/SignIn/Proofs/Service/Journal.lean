import SignIn.Proofs.Service.Interleaving

/-!
# The journal of a pool

The journal of a pool has all that happened in it. What one answer of the world preserves holds of
the world and the journal after every run (`Pool.run_induction`), and each caller is where its own
answers in the journal led it (`Pool.led`).

How many questions an operation asks at most is read off its text (`Ends`), and then its caller is
done after as many turns of its own (`Pool.exists_result_of_ends`).
-/

namespace SignIn

/-! ## Questions of an operation -/

/-- The question has an answer in any world. -/
def Call.isSure : Call → Bool
  | .halt => false
  | _ => true

namespace Operation

variable {α : Type}

/-- The operation ends after at most `n` questions, which all have an answer in any world, if the
answers are of the kind `A`. -/
def Ends (A : Exchange → Prop) : Nat → Operation α → Prop
  | _, .done _ => True
  | 0, .ask _ _ => False
  | n + 1, .ask c next => c.isSure = true ∧ ∀ r, A ⟨c, r⟩ → Ends A n (next r)

end Operation

/-! ## Runs of a pool -/

namespace Pool

open Operation

variable {settings : Settings} {requests : List ServiceRequest} {w : World}

/-- What the answer in each turn preserves holds after every run. -/
theorem run_induction {I : World → List (Nat × Exchange) → Prop} {turns : List Turn}
    (hstep : ∀ t ∈ turns, ∀ {w J c r w'}, I w J →
      World.answer c (w.within t.surroundings) = some (r, w') →
      I w' (J ++ [(t.caller, ⟨c, r⟩)])) :
    ∀ {p : Pool}, I p.world p.journal → I (p.run turns).world (p.run turns).journal := by
  intro p h
  refine List.foldlRecOn (motive := fun p => I p.world p.journal) turns turn h fun p hp t ht => ?_
  rcases turn_cases p t with heq | ⟨c, next, r, w, -, ha, heq⟩
  · rwa [heq]
  · rw [heq]
    exact hstep t ht hp ha

/-- Each caller is where its own answers led it, and nobody else has been answered. -/
structure Led (settings : Settings) (requests : List ServiceRequest) (p : Pool) : Prop where
  caller : ∀ {i : Nat} {r}, requests[i]? = some r → ∃ q, p.callers[i]? = some q ∧
    Answered (r.operation settings) (callsOf i p.journal) q
  request : ∀ {i : Nat} {q}, p.callers[i]? = some q → ∃ r, requests[i]? = some r
  mem : ∀ {i : Nat} {e}, (i, e) ∈ p.journal → ∃ r, requests[i]? = some r

theorem led_start : Led settings requests (start settings w requests) where
  caller {i r} hr := by
    refine ⟨r.operation settings, ?_, .nil⟩
    rw [start, List.getElem?_map, hr]
    rfl
  request {i q} hq := by
    rw [start, List.getElem?_map] at hq
    obtain ⟨r, hr, -⟩ := Option.map_eq_some_iff.1 hq
    exact ⟨r, hr⟩
  mem he := absurd he List.not_mem_nil

theorem Led.turn {p : Pool} (h : Led settings requests p) (t : Turn) :
    Led settings requests (p.turn t) := by
  rcases turn_cases p t with heq | ⟨c, next, r, w, hc, -, heq⟩
  · rwa [heq]
  have hlt := (List.getElem?_eq_some_iff.1 hc).1
  rw [heq]
  refine ⟨fun {i q} hi => ?_, fun {i q} hq => ?_, fun {i e} he => ?_⟩
  · obtain ⟨o, ho, hes⟩ := h.caller hi
    rw [callsOf_append, callsOf_cons]
    rcases eq_or_ne t.caller i with rfl | hne
    · obtain rfl : Script.ask c next = o := Option.some.inj (hc.symm.trans ho)
      rw [if_pos rfl]
      exact ⟨next r, List.getElem?_set_self hlt, hes.snoc rfl r⟩
    · rw [if_neg hne]
      refine ⟨o, ho ▸ List.getElem?_set_ne hne, ?_⟩
      simpa [callsOf] using hes
  · rcases eq_or_ne t.caller i with rfl | hne
    · exact h.request hc
    · exact h.request ((List.getElem?_set_ne hne).symm.trans hq)
  · rcases List.mem_append.1 he with he | he
    · exact h.mem he
    · cases List.mem_singleton.1 he
      exact h.request hc

/-- Each caller is where its own answers led it. -/
theorem led (turns : List Turn) {p : Pool} (h : Led settings requests p) :
    Led settings requests (p.run turns) :=
  List.foldlRecOn turns turn h fun _ hp t _ => hp.turn t

/-- The question of a caller is what its own answers led it to. -/
theorem Led.asked {p : Pool} (h : Led settings requests p) {i : Nat} {c : Call}
    {next : c.Reply → Operation Outcome} (hc : p.callers[i]? = some (.ask c next)) :
    ∃ r, requests[i]? = some r ∧
      Answered (r.operation settings) (callsOf i p.journal) (.ask c next) := by
  obtain ⟨r, hr⟩ := h.request hc
  obtain ⟨q, hq, hanswered⟩ := h.caller hr
  obtain rfl := Option.some.inj (hc.symm.trans hq)
  exact ⟨r, hr, hanswered⟩

/-! ## Failures -/

/-- A turn in which collaborators may fail. -/
structure FaultyTurn where
  turn : Turn
  faults : Faults

/-- A turn with its failures : where one is set, it is the answer, and nothing else happens. -/
def faultyTurn (p : Pool) (t : FaultyTurn) : Pool :=
  turn { p with world := { p.world with faults := t.faults } } t.turn

/-- One turn after the other, each with failures of its own. -/
def faultyRun (p : Pool) (turns : List FaultyTurn) : Pool := turns.foldl faultyTurn p

theorem faultyRun_snoc (p : Pool) (turns : List FaultyTurn) (t : FaultyTurn) :
    p.faultyRun (turns ++ [t]) = (p.faultyRun turns).faultyTurn t := by
  simp [faultyRun]

/-- What failures do not touch and the answer in each turn preserves holds after every run. -/
theorem faultyRun_induction_of_mem {I : World → List (Nat × Exchange) → Prop}
    {turns : List FaultyTurn}
    (hfaults : ∀ {w J} (f : Faults), I w J → I { w with faults := f } J)
    (hstep : ∀ t ∈ turns, ∀ {w J c r w'}, I w J →
      World.answer c (w.within t.turn.surroundings) = some (r, w') →
        I w' (J ++ [(t.turn.caller, ⟨c, r⟩)])) :
    ∀ {p : Pool}, I p.world p.journal →
      I (p.faultyRun turns).world (p.faultyRun turns).journal := by
  intro p h
  refine List.foldlRecOn (motive := fun p => I p.world p.journal) turns faultyTurn h
    fun p hp t ht => ?_
  have hp := hfaults t.faults hp
  rcases turn_cases { p with world := { p.world with faults := t.faults } } t.turn with
    heq | ⟨c, next, r, w, -, ha, heq⟩
  · rwa [faultyTurn, heq]
  · rw [faultyTurn, heq]
    exact hstep t ht hp ha

/-- What failures do not touch and each answer preserves holds after every run. -/
theorem faultyRun_induction {I : World → List (Nat × Exchange) → Prop}
    (hfaults : ∀ {w J} (f : Faults), I w J → I { w with faults := f } J)
    (hstep : ∀ (σ : Surroundings) (i : Nat) {w J c r w'}, I w J →
      World.answer c (w.within σ) = some (r, w') → I w' (J ++ [(i, ⟨c, r⟩)]))
    (turns : List FaultyTurn) {p : Pool} (h : I p.world p.journal) :
    I (p.faultyRun turns).world (p.faultyRun turns).journal :=
  faultyRun_induction_of_mem hfaults (fun t _ => hstep t.turn.surroundings t.turn.caller) h

/-- Where a caller is has nothing to do with the world. -/
theorem Led.within {p : Pool} (h : Led settings requests p) (w : World) :
    Led settings requests { p with world := w } :=
  ⟨h.caller, h.request, h.mem⟩

theorem Led.faultyRun (turns : List FaultyTurn) {p : Pool} (h : Led settings requests p) :
    Led settings requests (p.faultyRun turns) :=
  List.foldlRecOn turns faultyTurn h fun _ hp t _ => (hp.within _).turn t.turn

/-- Whatever becomes of the world, more callers can come. -/
theorem Led.append {p : Pool} (h : Led settings requests p) (w : World)
    (later : List ServiceRequest) :
    Led settings (requests ++ later)
      { p with world := w, callers := p.callers ++ later.map (·.operation settings) } := by
  have hlen : p.callers.length = requests.length := by
    refine Nat.le_antisymm (Nat.le_of_not_lt fun hlt => ?_) (Nat.le_of_not_lt fun hlt => ?_)
    · obtain ⟨r, hr⟩ := h.request (List.getElem?_eq_getElem hlt)
      exact absurd (List.getElem?_eq_some_iff.1 hr).1 (Nat.lt_irrefl _)
    · obtain ⟨q, hq, -⟩ := h.caller (List.getElem?_eq_getElem hlt)
      exact absurd (List.getElem?_eq_some_iff.1 hq).1 (Nat.lt_irrefl _)
  refine ⟨fun {i r} hr => ?_, fun {i q} hq => ?_, fun {i e} he => ?_⟩
  · rcases Nat.lt_or_ge i requests.length with hlt | hge
    · rw [List.getElem?_append_left hlt] at hr
      obtain ⟨q, hq, hes⟩ := h.caller hr
      exact ⟨q, (List.getElem?_append_left (hlen ▸ hlt)).trans hq, hes⟩
    · rw [List.getElem?_append_right hge] at hr
      refine ⟨r.operation settings, ?_, ?_⟩
      · rw [List.getElem?_append_right (hlen ▸ hge), List.getElem?_map, hlen, hr]
        rfl
      · have hnone : callsOf i p.journal = [] := List.eq_nil_iff_forall_not_mem.2 fun e he => by
          obtain ⟨q, hq⟩ := h.mem (mem_callsOf.1 he)
          exact absurd (List.getElem?_eq_some_iff.1 hq).1 (Nat.not_lt.2 hge)
        rw [hnone]
        exact .nil
  · have hlt := (List.getElem?_eq_some_iff.1 hq).1
    rw [List.length_append, List.length_map, hlen] at hlt
    exact ⟨_, List.getElem?_eq_getElem (by rwa [List.length_append])⟩
  · obtain ⟨r, hr⟩ := h.mem he
    exact ⟨r, (List.getElem?_append_left (List.getElem?_eq_some_iff.1 hr).1).trans hr⟩

/-! ## Runs that come to an end -/

/-- A run only adds to the journal. -/
theorem exists_journal_run (turns : List Turn) (p : Pool) : ∃ new,
    (p.run turns).journal = p.journal ++ new := by
  refine run_induction (I := fun _ J => ∃ new, J = p.journal ++ new) ?_
    ⟨[], (List.append_nil _).symm⟩
  rintro t - w J c r w' ⟨new, rfl⟩ -
  exact ⟨_, List.append_assoc _ _ _⟩

theorem callers_turn_of_ne {p : Pool} {t : Turn} {i : Nat} (h : t.caller ≠ i) :
    (p.turn t).callers[i]? = p.callers[i]? := by
  rcases turn_cases p t with heq | ⟨c, next, r, w, -, -, heq⟩
  · rw [heq]
  · rw [heq]
    exact List.getElem?_set_ne h

/-- Most questions are answered in the turn of the caller. -/
theorem exists_turn_eq {p : Pool} {t : Turn} {c : Call} {next : c.Reply → Operation Outcome}
    (hq : p.callers[t.caller]? = some (.ask c next)) (hc : c.isSure = true) :
    ∃ r w, p.turn t = ⟨w, p.callers.set t.caller (next r), p.journal ++ [(t.caller, ⟨c, r⟩)]⟩ := by
  cases ha : World.answer c (p.world.within t.surroundings) with
  | none =>
    cases World.eq_halt_of_answer_eq_none ha
    cases hc
  | some a =>
    obtain ⟨r, w⟩ := a
    refine ⟨r, w, ?_⟩
    rw [turn, hq]
    simp only [ha]

/-- Whoever is done stays so. -/
theorem result?_turn {i : Nat} {o : Outcome} {p : Pool} (ho : p.result? i = some o) (t : Turn) :
    (p.turn t).result? i = some o := by
  rw [result?_eq_some_iff] at ho ⊢
  rcases turn_cases p t with heq | ⟨c, next, r, w, hc, -, heq⟩
  · rwa [heq]
  · have hne : t.caller ≠ i := by
      rintro rfl
      cases Option.some.inj (hc.symm.trans ho)
    rw [← callers_turn_of_ne hne] at ho
    exact ho

theorem result?_run {i : Nat} {o : Outcome} (turns : List Turn) {p : Pool}
    (ho : p.result? i = some o) : (p.run turns).result? i = some o :=
  List.foldlRecOn (motive := fun p => p.result? i = some o) turns turn ho
    fun _ hp t _ => result?_turn hp t

/-- A caller that ends after at most `n` answers of a kind is done after `n` turns of its own, if
all its answers are of this kind. -/
theorem exists_result_of_ends {A : Exchange → Prop} {i : Nat} (turns : List Turn) :
    ∀ {p : Pool} {n : Nat} {q : Operation Outcome}, p.callers[i]? = some q → Ends A n q →
      (∀ new, (p.run turns).journal = p.journal ++ new → ∀ e, (i, e) ∈ new → A e) →
      (n ≤ turns.countP fun t => t.caller = i) → ∃ o, (p.run turns).result? i = some o := by
  induction turns with
  | nil =>
    intro p n q hq hends _ hn
    obtain rfl := Nat.le_zero.1 hn
    cases q with
    | done o => exact ⟨o, result?_eq_some_iff.2 hq⟩
    | ask c next => exact hends.elim
  | cons t turns ih =>
    intro p n q hq hends hA hn
    cases q with
    | done o => exact ⟨o, result?_run (t :: turns) (result?_eq_some_iff.2 hq)⟩
    | ask c next =>
      obtain ⟨x, hx⟩ : ∃ x, (p.turn t).journal = p.journal ++ x := exists_journal_run [t] p
      obtain ⟨new, hnew⟩ := exists_journal_run turns (p.turn t)
      have hA : ∀ e, (i, e) ∈ x ++ new → A e :=
        hA (x ++ new) (by rw [← List.append_assoc, ← hx]; exact hnew)
      have hlater : ∀ new', ((p.turn t).run turns).journal = (p.turn t).journal ++ new' →
          ∀ e, (i, e) ∈ new' → A e := fun new' hnew' e he => by
        rw [hnew] at hnew'
        exact hA e (List.mem_append_right _ (List.append_cancel_left hnew' ▸ he))
      by_cases hi : t.caller = i
      · subst hi
        cases n with
        | zero => exact hends.elim
        | succ n =>
          obtain ⟨hc, hnext⟩ := hends
          obtain ⟨r, w, heq⟩ := exists_turn_eq hq hc
          rw [heq] at hx
          have hr : A ⟨c, r⟩ :=
            hA _ (List.mem_append_left _ (List.append_cancel_left hx ▸ List.mem_cons_self))
          refine ih (q := next r) ?_ (hnext r hr) hlater ?_
          · rw [heq]
            exact List.getElem?_set_self (List.getElem?_eq_some_iff.1 hq).1
          · rw [List.countP_cons_of_pos (by simp)] at hn
            exact Nat.le_of_succ_le_succ hn
      · rw [List.countP_cons_of_neg (by simpa using hi)] at hn
        exact ih ((callers_turn_of_ne hi).trans hq) hends hlater hn

end Pool

end SignIn
