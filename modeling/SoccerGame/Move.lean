import SoccerGame.Captain

/-!
How one process's move changes the sums of the ledger, and the moves that keep a process
in its branch: a captain's calls and waits, a recruit's wait and registration.

* `total_setProc`, `calls_setProc`, `acks_setProc`, `taken_setProc`, `reserved_setProc`,
  `forming_setProc`: a sum after process `i` of kind `k` becomes `p` is the sum before,
  with the old view's term traded for the new one's;
* `Ledger.move`: a move that keeps `ret`, the branch, `xArrived` and `teamId`, and
  neither starts nor ends a formation, keeps the ledger when the counters it changes match
  the calls, waits, quotas and raises of `refereeWaitTeams` it makes.
-/

namespace SoccerGame

variable {c : Config} {s s₀ : State} {k : Kind} {i : Nat} {p : Proc}

/-- The views after a move over a state with the same processes. -/
lemma view_setProc_of (h₀ : s₀.proc = s.proc) :
    (s₀.setProc k i p).view = upd s.view k i p.view := by
  rw [view_setProc, show s₀.view = s.view from funext fun k' => funext fun j => by
    simp only [State.view, h₀]]

/-- A sum of the ledger after a move of process `i` of kind `k`. -/
lemma total_setProc (h₀ : s₀.proc = s.proc) (hi : i < c.pool k) (k' : Kind) (f : View → Nat) :
    total c (s₀.setProc k i p).view k' f + (if k' = k then f (s.view k i) else 0) =
      total c s.view k' f + if k' = k then f p.view else 0 := by
  rw [view_setProc_of h₀]
  split
  · next h => subst h; exact total_upd hi
  · next h => simp only [total_upd_ne h]

/-- A sum over the other kind. -/
lemma total_setProc_ne (h₀ : s₀.proc = s.proc) {k' : Kind} (hk : k' ≠ k) (f : View → Nat) :
    total c (s₀.setProc k i p).view k' f = total c s.view k' f := by
  rw [view_setProc_of h₀]; exact total_upd_ne hk

/-- A sum over the mover's kind. -/
lemma total_setProc_self (h₀ : s₀.proc = s.proc) (hi : i < c.pool k) (f : View → Nat) :
    total c (s₀.setProc k i p).view k f + f (s.view k i) = total c s.view k f + f p.view := by
  rw [view_setProc_of h₀]; exact total_upd hi

/-- A sum of the ledger that the move does not see. -/
lemma total_setProc_of_eq (h₀ : s₀.proc = s.proc) {f : View → Nat}
    (hf : f p.view = f (s.view k i)) (k' : Kind) :
    total c (s₀.setProc k i p).view k' f = total c s.view k' f := by
  rw [view_setProc_of h₀]; exact total_upd_of_eq hf

/-- The calls after a move. -/
lemma calls_setProc (h₀ : s₀.proc = s.proc) (hi : i < c.pool k) (k' : Kind) :
    (s₀.setProc k i p).calls c k' + c.called k (s.view k i).phase k' =
      s.calls c k' + c.called k p.view.phase k' := by
  have e1 := total_setProc h₀ hi .player (fun v => c.called .player v.phase k') (p := p)
  have e2 := total_setProc h₀ hi .goalie (fun v => c.called .goalie v.phase k') (p := p)
  simp only [State.calls]
  cases k <;> simp only [reduceCtorEq, if_true, if_false] at e1 e2 <;> omega

/-- The completed waits after a move. -/
lemma acks_setProc (h₀ : s₀.proc = s.proc) (hi : i < c.pool k) :
    (s₀.setProc k i p).acks c + c.acked k (s.view k i).phase = s.acks c + c.acked k p.view.phase := by
  have e1 := total_setProc h₀ hi .player (fun v => c.acked .player v.phase) (p := p)
  have e2 := total_setProc h₀ hi .goalie (fun v => c.acked .goalie v.phase) (p := p)
  simp only [State.acks]
  cases k <;> simp only [reduceCtorEq, if_true, if_false] at e1 e2 <;> omega

/-- The forming captains after a move. -/
lemma forming_setProc (h₀ : s₀.proc = s.proc) (hi : i < c.pool k) :
    (s₀.setProc k i p).forming c + View.forming (s.view k i) = s.forming c + View.forming p.view := by
  have e1 := total_setProc h₀ hi .player View.forming (p := p)
  have e2 := total_setProc h₀ hi .goalie View.forming (p := p)
  simp only [State.forming]
  cases k <;> simp only [reduceCtorEq, if_true, if_false] at e1 e2 <;> omega

/-- The taken quotas after a move. -/
lemma taken_setProc (h₀ : s₀.proc = s.proc) (hi : i < c.pool k) (k' : Kind) :
    (s₀.setProc k i p).taken c k' + took k (s.view k i).phase k' =
      s.taken c k' + took k p.view.phase k' := by
  have e1 := total_setProc h₀ hi .player (fun v => took .player v.phase k') (p := p)
  have e2 := total_setProc h₀ hi .goalie (fun v => took .goalie v.phase k') (p := p)
  simp only [State.taken]
  cases k <;> simp only [reduceCtorEq, if_true, if_false] at e1 e2 <;> omega

/-- The reserved counters after a move. -/
lemma reserved_setProc (h₀ : s₀.proc = s.proc) (hi : i < c.pool k) (k' : Kind) :
    (s₀.setProc k i p).reserved c k' + c.quota k' * took k (s.view k i).phase k' + s.free k' =
      s.reserved c k' + c.quota k' * took k p.view.phase k' + s₀.free k' := by
  have e := congrArg (c.quota k' * ·) (taken_setProc h₀ hi k' (p := p))
  simp only [Nat.mul_add] at e
  simp only [State.reserved, State.setProc_free]
  omega

/-- **Moves within a branch.** A step of process `i` of kind `k` that keeps its `ret`, its
branch, `xArrived` and `teamId`, and neither starts nor ends a formation, keeps the ledger
if the counters it changes match the calls, completed waits and taken quotas it makes. -/
lemma Ledger.move (hL : Ledger c s) (hi : i < c.pool k) (h₀ : s₀.proc = s.proc)
    (ha : s₀.arrived = s.arrived) (ht : s₀.teamId = s.teamId)
    (hret : p.ret = (s.proc k i).ret) (hrole : p.role = (s.proc k i).role)
    (hcalled : ∀ k', s₀.waitTeam k' + (if k' = k then View.reading p.view else 0) +
        c.called k (s.view k i).phase k' =
      s.waitTeam k' + (if k' = k then View.reading (s.view k i) else 0) +
        c.called k p.view.phase k')
    (hfree : ∀ k', s₀.free k' + c.quota k' * took k p.view.phase k' =
      s.free k' + c.quota k' * took k (s.view k i).phase k')
    (hreg : s₀.playerRegistered + c.acked k p.view.phase + View.registering p.view =
      s.playerRegistered + c.acked k (s.view k i).phase + View.registering (s.view k i))
    (href : s₀.refereeWaitTeams + View.signaling p.view =
      s.refereeWaitTeams + View.signaling (s.view k i))
    (hform : p.pc.forming = (s.proc k i).pc.forming)
    (hidle : s.forming c = 0 → s₀.free = s.free) :
    Ledger c (s₀.setProc k i p) := by
  have hsame : ∀ f : View → Nat, (∀ v w : View, v.ret = w.ret → v.role = w.role → f v = f w) →
      ∀ k', total c (s₀.setProc k i p).view k' f = total c s.view k' f := fun f hf =>
    total_setProc_of_eq h₀ (hf _ _ hret hrole)
  have hE := hsame View.entered fun v w _ h => by simp only [View.entered, h]
  have hA := hsame View.admitted fun v w _ h => by simp only [View.admitted, h]
  have hH := hsame View.holding fun v w h _ => by simp only [View.holding, h]
  have hT := fun t => hsame (View.holds t) fun v w h _ => by simp only [View.holds, h]
  have hC := hsame View.closed fun v w h h' => by simp only [View.closed, h, h']
  have hK := fun t => hsame (View.captainOf t) fun v w h h' => by simp only [View.captainOf, h, h']
  have hF := total_setProc_of_eq (c := c) h₀ (k := k) (i := i) (p := p) (f := View.forming)
    (by simp [State.view, hform])
  have hres : ∀ k', (s₀.setProc k i p).reserved c k' = s.reserved c k' := fun k' => by
    have := reserved_setProc h₀ hi k' (p := p); have := hfree k'; omega
  have hfm : (s₀.setProc k i p).forming c = s.forming c := by simp only [State.forming, hF]
  have hat : ∀ k', LedgerAt c s k' → LedgerAt c (s₀.setProc k i p) k' := fun k' h => by
    have hr := total_setProc h₀ hi k' View.reading (p := p)
    have hc := calls_setProc h₀ hi k' (p := p)
    have hw := hcalled k'
    have := h.called
    refine ⟨?_, ?_, ?_, ?_, ?_, fun t => ?_, fun t => ?_⟩ <;>
      simp only [State.setProc_arrived, State.setProc_teamId, State.setProc_waitTeam, ha, ht, hE,
        hA, hH, hT, hres]
    · exact h.arrived
    · exact h.admitted
    · by_cases hk : k' = k
      · simp only [if_pos hk] at hr hw; omega
      · simp only [if_neg hk] at hr hw; omega
    · exact h.free
    · exact h.current
    · exact h.complete t
    · exact h.unissued t
  have hrp := total_setProc h₀ hi .player View.registering (p := p)
  have hrg := total_setProc h₀ hi .goalie View.registering (p := p)
  have hak := acks_setProc h₀ hi (p := p)
  have hsp := total_setProc h₀ hi .player View.signaling (p := p)
  have hsg := total_setProc h₀ hi .goalie View.signaling (p := p)
  refine ⟨hat _ hL.player, hat _ hL.goalie, ?_, ?_, ?_, fun t => ?_, fun h0 => ?_, fun h1 => ?_⟩ <;>
    simp only [State.setProc_teamId, State.setProc_playerRegistered, State.setProc_free,
      State.setProc_refereeWaitTeams, ht, hH, hC, hK, hfm, hres, hF] at *
  · have := hL.registered
    cases k <;> simp only [reduceCtorEq, if_true, if_false] at hrp hrg <;> omega
  · exact hL.closed
  · have := hL.referee
    cases k <;> simp only [reduceCtorEq, if_true, if_false] at hsp hsg <;> omega
  · exact hL.captain t
  · rw [hidle h0]; exact hL.idle h0
  · exact hL.busy h1

end SoccerGame
