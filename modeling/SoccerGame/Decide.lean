import SoccerGame.Flow

/-!
The decision in the first critical region of `xConstituteTeam`. No captain is forming
(`mutex` is held by the deciding process), so the free counters do not meet both quotas;
the process's own arrival either makes them meet, and it becomes the captain, or not, and
it waits as a recruit, unless it came after `2 * quota` others of its kind and is late.

* `Inv.decide`: the decision keeps the invariant, whatever the branch, given what the branch
  writes and how it changes the free counters;
* `Inv.step_constituteCS`: the four branches of the source (late, player captain, goalie
  captain, recruit).
-/

namespace SoccerGame

variable {c : Config} {s s' : State} {k : Kind} {i : Nat}

/-- **The decision** in the first critical region of `xConstituteTeam`, over a state `s₀`
with `xArrived` raised, the free counters as the branch leaves them and the branch's status
written: the process takes the branch `r` and the step `p.pc`, seen as `q`. -/
lemma Inv.decide (hI : Inv c s) (hi : i < c.pool k) (hpc : (s.proc k i).pc = .constituteCS)
    {s₀ : State} {p : Proc} {r : Role} {q : PC} (h₀ : s₀.proc = s.proc)
    (ha : s₀.arrived = Function.update s.arrived k (s.arrived k + 1))
    (ht : s₀.teamId = s.teamId) (hw : s₀.waitTeam = s.waitTeam)
    (hreg : s₀.playerRegistered = s.playerRegistered) (hm : s₀.mutex = s.mutex)
    (hrw : s₀.refereeWaitTeams = s.refereeWaitTeams)
    (hst : s₀.stat = (s.write k i r.stat).stat) (hh : s₀.hist = (s.write k i r.stat).hist)
    (hp : p.ret = 0 ∧ p.order = s.arrived k + 1 ∧ p.role = r) (hcs : p.pc.inCS)
    (hph : p.pc.canon r = q) (hcap : p.pc.forming ↔ r = .captain)
    (hcall : ∀ k', c.called k q k' = 0) (hack : c.acked k q = 0)
    (hrd : q ≠ .readTeamId ∧ q ≠ .register ∧ q ≠ .signalReferee) (hr : r ≠ .undecided)
    (hlate : r = .late ↔ 2 * c.quota k < s.arrived k + 1)
    (hfree : ∀ k', s₀.free k' + c.quota k' * took k q k' =
      s.free k' + if k' = k ∧ r ≠ .late then 1 else 0)
    (hidle : r ≠ .captain → ¬ (c.numTeamPlayers ≤ s₀.free .player ∧
      c.numTeamGoalies ≤ s₀.free .goalie))
    (hbusy : r = .captain →
      c.numTeamPlayers ≤ s.free .player + (if k = .player then 1 else 0) ∧
        c.numTeamGoalies ≤ s.free .goalie + (if k = .goalie then 1 else 0))
    (hfits : Fits c k p) (hwr : p.written = [.arriving, r.stat]) :
    Inv c (s₀.setProc k i p) := by
  have hg := (hI.good k i hi).2.2.2
  simp only [Fits, hpc] at hg
  have hv : s.view k i = ⟨.arrive, 0, .undecided⟩ := by
    simp [State.view, Proc.view, PC.canon, hpc, hg.1, hg.2]
  have hv' : p.view = ⟨q, 0, r⟩ := by simp [Proc.view, hph, hp.1, hp.2.2]
  have hf0 : s.forming c = 0 :=
    hI.forming_eq_zero hi (by simp [hpc, PC.inCS]) (by simp [hpc, PC.forming])
  have harr : s₀.arrived k = s.arrived k + 1 := by simp [ha]
  refine hI.of_step hi rfl h₀ (fun k' => by
      rw [ha]; by_cases hk : k' = k
      · subst hk; simp
      · simp [Function.update_noteq hk])
    (fun k' j h => by rw [hst, hh]; simp [State.write, h])
    (by rw [hm, hcs, hpc]; rfl)
    ⟨by omega, by simp [hp.2.1, hp.2.2, hr], by rw [hp.2.2, hp.2.1]; exact hlate, hfits⟩
    ⟨by rw [hh, hwr]; simp [(hI.recorded k i hi).1, Proc.written, hpc],
      .inr (by rw [hst, hh]; simp)⟩
    ⟨by rw [hp.2.1, harr], .inr fun j hj => by have := hI.rank_le k j hj; omega⟩ ?_
  -- the sums after the decision: one more entered, admitted unless late, forming if captain
  have hL := hI.ledger
  have e : ∀ f k', total c (s₀.setProc k i p).view k' f +
      (if k' = k then f ⟨.arrive, 0, .undecided⟩ else 0) =
      total c s.view k' f + (if k' = k then f ⟨q, 0, r⟩ else 0) := fun f k' => by
    rw [← hv, ← hv']; exact total_setProc h₀ hi k' f
  have hsame : ∀ f : View → Nat, f ⟨q, 0, r⟩ = f ⟨.arrive, 0, .undecided⟩ →
      ∀ k', total c (s₀.setProc k i p).view k' f = total c s.view k' f := fun f hf k' => by
    have := e f k'; split at this <;> omega
  have hholds : ∀ t k', total c (s₀.setProc k i p).view k' (View.holds t) =
      total c s.view k' (View.holds t) := fun t => hsame _ rfl
  have hcalls : ∀ k', (s₀.setProc k i p).calls c k' = s.calls c k' := fun k' => by
    have := calls_setProc h₀ hi k' (p := p)
    rw [hv, hv', hcall] at this
    dsimp only at this
    rw [called_eq_zero (q := .arrive) rfl] at this
    omega
  have hres : ∀ k', (s₀.setProc k i p).reserved c k' =
      s.free k' + if k' = k ∧ r ≠ .late then 1 else 0 := fun k' => by
    have := taken_setProc h₀ hi k' (p := p)
    rw [hv, hv', s.taken_eq_zero hf0] at this
    dsimp only at this
    rw [took_eq_zero (q := .arrive) rfl] at this
    rw [State.reserved, State.setProc_free, ← hfree k', (by omega : (s₀.setProc k i p).taken c k' =
      took k q k')]
  have hres0 : ∀ k', s.reserved c k' = s.free k' := fun k' => by
    rw [State.reserved, s.taken_eq_zero hf0, Nat.mul_zero, Nat.add_zero]
  have hphf : q.forming = true ↔ r = .captain := by rw [← hph, PC.forming_canon]; exact hcap
  have hF : ∀ k', total c (s₀.setProc k i p).view k' View.forming =
      if k' = k ∧ r = .captain then 1 else 0 := fun k' => by
    have := e View.forming k'
    have hq : View.forming ⟨q, 0, r⟩ = if r = .captain then 1 else 0 := by
      simp only [View.forming, hphf]
    rw [s.total_eq_zero_of_idle hf0 (fun v hv => by simp [View.forming, hv]), hq,
      show View.forming ⟨.arrive, 0, .undecided⟩ = 0 from rfl, ite_self, Nat.add_zero,
      Nat.zero_add] at this
    rw [this, ite_and]
  have hadm : View.admitted ⟨q, 0, r⟩ = if r ≠ .late then 1 else 0 := by
    cases r <;> simp [View.admitted] at hr ⊢
  have hL' : ∀ k', LedgerAt c (s₀.setProc k i p) k' := fun k' => by
    obtain ⟨h1, h2, h3, h4, h5, h6, h7⟩ := hL.at k'
    have eE := e View.entered k'
    have eA := e View.admitted k'
    rw [hadm] at eA
    simp only [View.entered, View.admitted, hr, if_true, if_false, reduceCtorEq, or_self,
      ite_self, Nat.add_zero] at eE eA
    refine ⟨?_, ?_, ?_, ?_, ?_, fun t => ?_, fun t => ?_⟩ <;>
      simp only [State.setProc_arrived, State.setProc_teamId, State.setProc_waitTeam, ha, hw, ht,
        hsame View.reading (by simp [View.reading, hrd.1]),
        hsame View.holding (by simp [View.holding]), hholds, hcalls, hres]
    · rw [Function.update_apply]
      rcases eq_or_ne k' k with rfl | hk
      · simp only [if_true] at eE ⊢; omega
      · simp only [hk, if_false, Nat.add_zero] at eE ⊢; omega
    · rw [Function.update_apply]
      rcases eq_or_ne k' k with rfl | hk
      · by_cases hl : r = .late <;> simp only [hl, ne_eq, not_true_eq_false, not_false_eq_true,
          if_true, if_false, true_iff, false_iff, Nat.add_zero] at eA hlate ⊢ <;> omega
      · simp only [hk, if_false, Nat.add_zero] at eA ⊢; omega
    · exact h3
    · have := hres0 k'
      rcases eq_or_ne k' k with rfl | hk
      · by_cases hl : r = .late <;> simp only [hl, ne_eq, not_true_eq_false, not_false_eq_true,
          and_true, and_false, if_true, if_false, Nat.add_zero] at eA ⊢ <;> omega
      · simp only [hk, false_and, if_false, Nat.add_zero] at eA ⊢; omega
    · exact h5
    · exact h6 t
    · exact h7 t
  have hacks : (s₀.setProc k i p).acks c = s.acks c := by
    have := acks_setProc h₀ hi (p := p)
    rw [hv, hv'] at this
    dsimp only at this
    rw [hack, acked_eq_zero (q := .arrive) rfl] at this
    omega
  have hfm : (s₀.setProc k i p).forming c = if r = .captain then 1 else 0 := by
    simp only [State.forming, hF]
    cases k <;> by_cases hc : r = .captain <;> simp [hc]
  refine ⟨hL' _, hL' _, ?_, ?_, ?_, fun t h1 => ?_, fun h0 => ?_, fun h1 => ?_⟩
  · simp only [State.setProc_teamId, State.setProc_playerRegistered, hreg, ht, hacks,
      hsame View.registering (by simp [View.registering, hrd.2.1]),
      hsame View.holding (by simp [View.holding])]
    exact hL.registered
  · simp only [State.setProc_teamId, ht, hsame View.closed (by simp [View.closed])]
    exact hL.closed
  · simp only [State.setProc_teamId, State.setProc_refereeWaitTeams, ht, hrw,
      hsame View.signaling (by simp [View.signaling, hrd.2.2])]
    exact hL.referee
  · simp only [State.setProc_teamId, ht,
      hsame (View.captainOf t) (by simp only [View.captainOf]; rw [if_neg (by omega), if_neg (by simp)])]
    exact hL.captain t h1
  · rw [hfm] at h0
    exact hidle (by intro hc; simp [hc] at h0)
  · rw [hfm] at h1
    have hc : r = .captain := by by_contra hc; simp [hc] at h1
    obtain ⟨hbp, hbg⟩ := hbusy hc
    have hid := hL.idle hf0
    simp only [hres, hF, hc, ne_eq, reduceCtorEq, not_false_eq_true, and_true]
    cases k <;> simp only [reduceCtorEq, if_true, if_false, Nat.add_zero] at hbp hbg ⊢ <;> omega

/-- The first critical region of `xConstituteTeam` (player lines 183-241, goalie lines
180-222): late, captain or recruit. -/
lemma Inv.step_constituteCS (hN : 1 ≤ c.numTeamPlayers) (hI : Inv c s) (hi : i < c.pool k)
    (hpc : (s.proc k i).pc = .constituteCS) (h : step c s k i = some s') : Inv c s' := by
  simp only [step, hpc, Option.some.injEq] at h
  subst h
  have hg := (hI.good k i hi).2.2.2
  simp only [Fits, hpc] at hg
  have hf0 : s.forming c = 0 :=
    hI.forming_eq_zero hi (by simp [hpc, PC.inCS]) (by simp [hpc, PC.forming])
  have hid := hI.ledger.idle hf0
  simp only [constitute]
  split_ifs with hadm hcap <;> simp only [Function.update_same] at hadm
  · cases k
    · -- the player captain calls its team from `callFrom 0`
      rcases c.callFrom_cases 0 with ⟨hq, hlt⟩ | ⟨hq, hge⟩
      · refine hI.decide (r := .captain) hi hpc rfl rfl rfl rfl rfl rfl rfl rfl rfl ⟨hg.2, by simp, rfl⟩
          (by simp [hq, PC.inCS]) (PC.canon_of_forming (by simp [hq, PC.forming]) _)
          (by simp [hq, PC.forming]) (fun k' => by cases k' <;> simp [hq, Config.called])
          (by simp [hq, Config.acked]) (by simp [hq]) (by simp) (by simp at hadm ⊢; omega)
          (fun k' => by cases k' <;> simp [hq, took, State.write]) (fun h => absurd rfl h)
          (fun _ => by simpa using hcap) (by simp [Fits, hq, hg.2]; omega)
          (by simp [Proc.written, hq, Role.stat])
      · refine hI.decide (r := .captain) hi hpc rfl rfl rfl rfl rfl rfl rfl rfl rfl ⟨hg.2, by simp, rfl⟩
          (by simp [hq, PC.inCS]) (PC.canon_of_forming (by simp [hq, PC.forming]) _)
          (by simp [hq, PC.forming]) (fun k' => by cases k' <;> simp [hq, Config.called]; omega)
          (by simp [hq, Config.acked]; omega) (by simp [hq]) (by simp) (by simp at hadm ⊢; omega)
          (fun k' => by cases k' <;> simp [hq, took, State.write]) (fun h => absurd rfl h)
          (fun _ => by simpa using hcap) (by simp [Fits, hq, hg.2])
          (by simp [Proc.written, hq, Role.stat])
    · -- the goalie captain takes its goalies and releases players from `releaseFrom 0`
      have hq : c.releaseFrom 0 = .releasePlayer 0 := by
        rcases c.releaseFrom_cases 0 with ⟨hq, -⟩ | ⟨-, h⟩
        · exact hq
        · omega
      refine hI.decide (r := .captain) hi hpc rfl rfl rfl rfl rfl rfl rfl rfl rfl ⟨hg.2, by simp, rfl⟩
        (by simp [hq, PC.inCS]) (PC.canon_of_forming (by simp [hq, PC.forming]) _)
        (by simp [hq, PC.forming]) (fun k' => by cases k' <;> simp [hq, Config.called])
        (by simp [hq, Config.acked]) (by simp [hq]) (by simp) (by simp at hadm ⊢; omega)
        (fun k' => by cases k' <;> simp [hq, took, State.takeFree, State.write] at hcap ⊢; omega)
        (fun h => absurd rfl h) (fun _ => by simpa using hcap) (by simp [Fits, hq, hg.2]; omega)
        (by simp [Proc.written, hq, Role.stat])
  · -- a recruit waits for its call
    refine hI.decide (r := .recruit) (q := .waitTeam) hi hpc rfl rfl rfl rfl rfl rfl rfl rfl rfl ⟨hg.2, by simp, rfl⟩
      (by simp [PC.inCS]) (by simp [PC.canon]) (by simp [PC.forming])
      (fun k' => called_eq_zero (q := .waitTeam) rfl _ _)
      (acked_eq_zero (q := .waitTeam) rfl _) (by simp) (by simp) (by simp at hadm ⊢; omega)
      (fun k' => by cases k <;> cases k' <;> simp [took, State.write]) (fun _ => by simpa using hcap)
      (fun h => absurd h (by simp)) (by simp [Fits, hg.2]) (by simp [Proc.written, Role.stat])
  · -- late: the free slot goes back
    refine hI.decide (r := .late) (q := .finished) hi hpc rfl rfl rfl rfl rfl rfl rfl rfl rfl ⟨rfl, by simp, rfl⟩
      (by simp [PC.inCS]) (by simp [PC.canon]) (by simp [PC.forming])
      (fun k' => called_eq_zero (q := .finished) rfl _ _)
      (acked_eq_zero (q := .finished) rfl _) (by simp) (by simp) (by simp at hadm ⊢; omega)
      (fun k' => by cases k <;> cases k' <;> simp [took, State.takeFree, State.write])
      (fun _ => by cases k <;> simpa [State.takeFree] using hid) (fun h => absurd h (by simp))
      (by simp [Fits]) (by simp [Proc.written, Role.stat])

end SoccerGame
