import SignIn.Proofs.Refresh.Secrets
import SignIn.Proofs.Service.Answers
import SignIn.Proofs.Service.Protocols

/-!
# Requests side by side

A pool of callers shares one world. In a turn one of them has its next question answered, within
surroundings of the turn (`Pool.turn`) ; which caller has which turn is not determined, so a run
(`Pool.run`) is any order of the questions of all. The journal says who was answered what.

In a pool each caller is where its own answers led it, and the calls of the refresh store, whoever
made them, are one trace of the store. Every turn preserves this (`Pool.Lawful.turn`), so it holds
after every run (`Pool.Lawful.run`) : what a caller asks follows its protocol, and what the store
answers follows the order of the trace.
-/

namespace SignIn

/-! ## Calls of one among the calls of all -/

section Calls

variable {α : Type} {i : Nat} {J : List (Nat × α)}

/-- The calls that caller `i` made. -/
def callsOf (i : Nat) (J : List (Nat × α)) : List α :=
  J.filterMap fun e => if e.1 = i then some e.2 else none

theorem callsOf_cons (e : Nat × α) :
    callsOf i (e :: J) = if e.1 = i then e.2 :: callsOf i J else callsOf i J := by
  unfold callsOf
  split_ifs with h <;> simp [h]

@[simp] theorem callsOf_append (K : List (Nat × α)) :
    callsOf i (J ++ K) = callsOf i J ++ callsOf i K :=
  List.filterMap_append

theorem mem_callsOf {e : α} : e ∈ callsOf i J ↔ (i, e) ∈ J := by
  simp [callsOf, List.mem_filterMap]

/-- The calls of a caller are made in their order. -/
theorem map_callsOf_sublist : ∀ J : List (Nat × α), ((callsOf i J).map fun e => (i, e)).Sublist J
  | [] => List.Sublist.slnil
  | (j, e) :: J => by
    rw [callsOf_cons]
    split_ifs with h
    · rw [show j = i from h]
      exact (map_callsOf_sublist J).cons_cons _
    · exact (map_callsOf_sublist J).cons _

/-- Two calls in their order, and what was before, between and behind them. -/
theorem exists_split_of_sublist {x y : α} {l : List α} (h : [x, y].Sublist l) :
    ∃ l₁ l₂ l₃, l = l₁ ++ x :: (l₂ ++ y :: l₃) := by
  obtain ⟨r₁, r₂, rfl, hx, hy⟩ := List.cons_sublist_iff.1 h
  obtain ⟨l₁, m, rfl⟩ := List.append_of_mem hx
  obtain ⟨m', l₃, rfl⟩ := List.append_of_mem (List.singleton_sublist.1 hy)
  exact ⟨l₁, m ++ m', l₃, by simp⟩

end Calls

/-! ## Turns -/

/-- Whose turn it is, and what the world has at that moment. -/
structure Turn where
  caller : Nat
  surroundings : Surroundings

/-- Callers with what is left of their requests, and who was answered what so far. -/
structure Pool where
  world : World
  callers : List (Operation Outcome)
  journal : List (Nat × Exchange)

namespace Pool

open Operation

/-- Nobody has been answered yet. -/
def start (settings : Settings) (w : World) (requests : List ServiceRequest) : Pool :=
  ⟨w, requests.map (·.operation settings), []⟩

/-- The caller has its next question answered, if there is one and it has an answer. -/
def turn (p : Pool) (t : Turn) : Pool :=
  match p.callers[t.caller]? with
  | some (.ask c next) =>
    match World.answer c (p.world.within t.surroundings) with
    | some (r, w) => ⟨w, p.callers.set t.caller (next r), p.journal ++ [(t.caller, ⟨c, r⟩)]⟩
    | none => p
  | _ => p

/-- One turn after the other. -/
def run (p : Pool) (turns : List Turn) : Pool := turns.foldl turn p

/-- The calls of the refresh store, and who made them. -/
def refreshCalls (p : Pool) : List (Nat × RefreshEvent) :=
  p.journal.filterMap fun e => e.2.refresh?.map fun c => (e.1, c)

/-- What the request of a caller ended with. -/
def result? (p : Pool) (i : Nat) : Option Outcome :=
  match p.callers[i]? with
  | some (.done o) => some o
  | _ => none

theorem result?_eq_some_iff {p : Pool} {i : Nat} {o : Outcome} :
    p.result? i = some o ↔ p.callers[i]? = some (.done o) := by
  unfold result?
  split
  · simp_all
  · rename_i hne
    constructor
    · exact nofun
    · exact fun h => absurd h (hne o)

theorem turn_cases (p : Pool) (t : Turn) :
    p.turn t = p ∨ ∃ c next r w, p.callers[t.caller]? = some (.ask c next) ∧
      World.answer c (p.world.within t.surroundings) = some (r, w) ∧
      p.turn t = ⟨w, p.callers.set t.caller (next r), p.journal ++ [(t.caller, ⟨c, r⟩)]⟩ := by
  unfold turn
  split
  · rename_i c next hc
    split
    · rename_i r w ha
      exact Or.inr ⟨c, next, r, w, hc, ha, rfl⟩
    · exact Or.inl rfl
  · exact Or.inl rfl

/-! ## What every turn preserves -/

/-- Every caller is where its own answers led it, and the calls of the refresh store are a trace. -/
structure Lawful (settings : Settings) (requests : List ServiceRequest) (s : RefreshStore)
    (p : Pool) : Prop where
  spares : p.world.faults.SparesRefresh
  trace : s.Trace (p.refreshCalls.map (·.2)) p.world.refreshTokens
  answered : ∀ {i r}, requests[i]? = some r → ∃ es q, p.callers[i]? = some q ∧
    Answered (r.operation settings) es q ∧ callsOf i p.refreshCalls = refreshEvents es

variable {settings : Settings} {requests : List ServiceRequest} {s : RefreshStore} {p : Pool}

theorem lawful_start {w : World} (hf : w.faults.SparesRefresh) :
    Lawful settings requests w.refreshTokens (start settings w requests) where
  spares := hf
  trace := rfl
  answered {i r} hr := by
    refine ⟨[], r.operation settings, ?_, .nil, rfl⟩
    rw [start, List.getElem?_map, hr]
    rfl

/-- An answer more in the journal is a call more of the refresh store, or none. -/
theorem refreshCalls_snoc (w : World) (callers : List (Operation Outcome))
    (journal : List (Nat × Exchange)) (i : Nat) (e : Exchange) :
    refreshCalls ⟨w, callers, journal ++ [(i, e)]⟩ =
      refreshCalls ⟨w, callers, journal⟩ ++ (refreshEvents [e]).map fun c => (i, c) := by
  unfold refreshCalls refreshEvents
  rw [List.filterMap_append]
  cases h : e.refresh? <;> simp [h]

theorem callsOf_tagged (i j : Nat) (events : List RefreshEvent) :
    callsOf i (events.map fun c => (j, c)) = if j = i then events else [] := by
  induction events with
  | nil => split_ifs <;> rfl
  | cons c events ih =>
    rw [List.map_cons, callsOf_cons, ih]
    split_ifs <;> rfl

theorem Lawful.turn (h : Lawful settings requests s p) (t : Turn) :
    Lawful settings requests s (p.turn t) := by
  rcases turn_cases p t with heq | ⟨c, next, r, w, hc, ha, heq⟩
  · rw [heq]
    exact h
  have hcalls : refreshCalls (p.turn t) =
      p.refreshCalls ++ (refreshEvents [⟨c, r⟩]).map fun e => (t.caller, e) := by
    rw [heq]
    exact refreshCalls_snoc _ _ _ _ _
  refine ⟨?_, ?_, fun {i q} hi => ?_⟩
  · rw [heq]
    have hfaults := World.answer_faults ha
    rw [World.within_faults] at hfaults
    exact hfaults ▸ h.spares
  · have htags : ((refreshEvents [⟨c, r⟩]).map fun e => (t.caller, e)).map (·.2) =
        refreshEvents [⟨c, r⟩] := by
      rw [List.map_map]
      exact List.map_id' _
    rw [hcalls, List.map_append, htags, heq]
    have hspares : (p.world.within t.surroundings).faults.SparesRefresh := h.spares
    have htrace := World.trace_of_answer hspares ha
    rw [World.within_refreshTokens] at htrace
    exact RefreshStore.trace_append.2 ⟨_, h.trace, htrace⟩
  · obtain ⟨es, o, ho, hes, hown⟩ := h.answered hi
    rw [hcalls, callsOf_append, hown, callsOf_tagged, heq]
    rcases eq_or_ne t.caller i with rfl | hne
    · obtain rfl : Script.ask c next = o := Option.some.inj (hc.symm.trans ho)
      refine ⟨es ++ [⟨c, r⟩], next r, ?_, hes.snoc rfl r, ?_⟩
      · exact List.getElem?_set_self (List.getElem?_eq_some_iff.1 hc).1
      · rw [if_pos rfl, refreshEvents_append]
    · refine ⟨es, o, ?_, hes, ?_⟩
      · rw [← ho]
        exact List.getElem?_set_ne hne
      · rw [if_neg hne, List.append_nil]

theorem Lawful.run (turns : List Turn) {p : Pool} (h : Lawful settings requests s p) :
    Lawful settings requests s (p.run turns) :=
  List.foldlRecOn turns Pool.turn h fun _ hp t _ => hp.turn t

end Pool

end SignIn
