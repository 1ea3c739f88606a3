import SoccerGame.Flow
import Mathlib.Tactic.Set

/-!
The two steps that hand out team ids: a called recruit's unprotected read of `teamId`, and
the captain's `ret = teamId++`.

* `Inv.step_readTeamId`: the recruit reads the id of the captain that called it, which is
  still forming, so the id is 1 or 2;
* `Inv.closing`: when the captain closes its team every call has been answered and
  acknowledged, and the holders of `teamId` are the recruits it called;
* `Inv.close_at`, `Inv.close`, `Inv.step_closeTeam`: closing keeps the invariant.
-/

namespace SoccerGame

variable {c : Config} {s s' : State} {k : Kind} {i : Nat}

/-- A called recruit's read of `teamId` (player line 257, goalie line 248): the captain that
called it is still forming, so `teamId` is that captain's id, 1 or 2. -/
lemma Inv.step_readTeamId (hN : 1 ≤ c.numTeamPlayers) (hI : Inv c s) (hi : i < c.pool k)
    (hpc : (s.proc k i).pc = .readTeamId) (h : step c s k i = some s') : Inv c s' := by
  have hg := (hI.good k i hi).2.2.2
  simp only [Fits, hpc] at hg
  obtain ⟨hrole, hret⟩ := hg
  simp only [step, hpc, Option.some.injEq] at h
  subst h
  have hv : s.view k i = ⟨.readTeamId, 0, .recruit⟩ := by
    simp [State.view, Proc.view, PC.canon, hpc, hrole, hret]
  have hL := hI.ledger
  have hLk := hL.at k
  have hT1 : 1 ≤ s.teamId := by have := hL.closed; omega
  have hT2 : s.teamId ≤ 2 := by
    refine (hI.teamId_le hN).2 (Nat.one_le_iff_ne_zero.mpr fun h0 => ?_)
    have h1 := le_total (v := s.view) (f := View.reading) hi
    have h2 := s.calls_eq_zero h0 k
    have h3 := hLk.called
    have h4 := hLk.current
    rw [hv] at h1
    simp only [View.reading, if_true] at h1
    omega
  set p : Proc := { s.proc k i with pc := .register, ret := s.teamId } with hp
  have hv' : p.view = ⟨.register, s.teamId, .recruit⟩ := by simp [hp, Proc.view, PC.canon, hrole]
  refine hI.of_step hi rfl rfl (fun _ => le_rfl) (fun _ _ _ => ⟨rfl, rfl⟩)
    (by simp [PC.inCS, hpc])
    ⟨hT2, (hI.good k i hi).2.1, (hI.good k i hi).2.2.1, by simp [Fits, hp, hrole]; omega⟩
    ((hI.recorded k i hi).goto (by simp [Proc.written, hpc])) ⟨hI.rank_le k i hi, .inl rfl⟩ ?_
  -- the recruit stops reading and holds `teamId`
  have e : ∀ f : View → Nat, total c (s.setProc k i p).view k f + f ⟨.readTeamId, 0, .recruit⟩ =
      total c s.view k f + f ⟨.register, s.teamId, .recruit⟩ := fun f => by
    rw [← hv, ← hv']; exact total_setProc_self rfl hi f
  have hsame : ∀ f : View → Nat, f ⟨.register, s.teamId, .recruit⟩ = f ⟨.readTeamId, 0, .recruit⟩ →
      total c (s.setProc k i p).view k f = total c s.view k f := fun f hf => by
    have := e f; omega
  have hne : ∀ {k'}, k' ≠ k → ∀ f, total c (s.setProc k i p).view k' f = total c s.view k' f :=
    fun hk => total_setProc_ne rfl hk
  have hcalls : ∀ k', (s.setProc k i p).calls c k' = s.calls c k' := fun k' => by
    have := calls_setProc (s := s) rfl hi k' (p := p)
    rw [hv, hv', called_eq_zero (q := .readTeamId) rfl, called_eq_zero (q := .register) rfl] at this
    omega
  have hres : ∀ k', (s.setProc k i p).reserved c k' = s.reserved c k' := fun k' => by
    have := reserved_setProc (s := s) rfl hi k' (p := p)
    rw [hv, hv', took_eq_zero (q := .readTeamId) rfl, took_eq_zero (q := .register) rfl] at this
    omega
  have hT0 : s.teamId ≠ 0 := by omega
  have hT0' : 0 ≠ s.teamId := by omega
  have hL' : ∀ k', LedgerAt c (s.setProc k i p) k' := fun k' => by
    rcases eq_or_ne k' k with rfl | hk
    · obtain ⟨h1, h2, h3, h4, h5, h6, h7⟩ := hLk
      have eR := e View.reading
      have eH := e View.holding
      have eT := e (View.holds s.teamId)
      have hc := hcalls k'
      -- the ids other than `teamId` keep their holders
      have hT : ∀ t, t ≠ s.teamId → t ≠ 0 →
          total c (s.setProc k' i p).view k' (View.holds t) = total c s.view k' (View.holds t) :=
        fun t h h' => hsame _ (by simp only [View.holds, if_neg (Ne.symm h), if_neg (Ne.symm h')])
      simp only [View.reading, View.holding, View.holds, hT0, hT0', if_true, if_false,
        reduceCtorEq] at eR eH eT
      refine ⟨?_, ?_, ?_, ?_, ?_, fun t => ?_, fun t => ?_⟩ <;>
        simp only [State.setProc_arrived, State.setProc_teamId, State.setProc_waitTeam,
          hsame View.entered rfl, hsame View.admitted rfl, hres, hc]
      · exact h1
      · exact h2
      · omega
      · exact h4
      · omega
      · intro h1 h2
        rw [hT t (by omega) (by omega)]; exact h6 t h1 h2
      · intro h1
        rw [hT t (by omega) (by omega)]; exact h7 t h1
    · exact (hL.at k').congr (hne hk) rfl rfl rfl (hcalls k') (hres k')
  have hak := acks_setProc (s := s) rfl hi (p := p)
  rw [hv, hv', acked_eq_zero (q := .readTeamId) rfl, acked_eq_zero (q := .register) rfl] at hak
  have hsame' : ∀ f : View → Nat, f ⟨.register, s.teamId, .recruit⟩ = f ⟨.readTeamId, 0, .recruit⟩ →
      ∀ k', total c (s.setProc k i p).view k' f = total c s.view k' f := fun f hf k' => by
    rcases eq_or_ne k' k with rfl | hk
    · exact hsame f hf
    · exact hne hk f
  have hfm : (s.setProc k i p).forming c = s.forming c := by
    simp only [State.forming, hsame' View.forming rfl]
  refine ⟨hL' _, hL' _, ?_, ?_, ?_, fun t => ?_, fun h0 => ?_, fun h1 => ?_⟩ <;>
    simp only [State.setProc_teamId, State.setProc_playerRegistered, State.setProc_free,
      State.setProc_refereeWaitTeams, hfm, hres, hsame' View.forming rfl, hsame' View.closed rfl,
      hsame' View.signaling rfl, hsame' (View.captainOf _) rfl]
  · have := hL.registered
    have eG := e View.registering
    have eH := e View.holding
    simp only [View.registering, View.holding, hT0, if_true, if_false, reduceCtorEq] at eG eH
    cases k
    · simp only [hne (by decide : Kind.goalie ≠ .player)]; omega
    · simp only [hne (by decide : Kind.player ≠ .goalie)]; omega
  · exact hL.closed
  · exact hL.referee
  · exact hL.captain t
  · exact hL.idle (hfm ▸ h0)
  · exact hL.busy (hfm ▸ h1)

/-- The view of a captain about to close its team. -/
lemma Inv.view_closeTeam (hI : Inv c s) (hi : i < c.pool k)
    (hpc : (s.proc k i).pc = .closeTeam) : s.view k i = ⟨.closeTeam, 0, .captain⟩ := by
  have hg := (hI.good k i hi).2.2.2
  simp only [Fits, hpc] at hg
  simp [State.view, Proc.view_of_forming (by simp [hpc, PC.forming] : (s.proc k i).pc.forming),
    hpc, hg.1, hg.2]

/-- **A team is complete when its captain closes it.** Every call has been answered and
acknowledged: no wake-up is pending, no recruit is between its wait and its registration,
and the holders of `teamId` are exactly the recruits the captain called. -/
lemma Inv.closing (hN : 1 ≤ c.numTeamPlayers) (hI : Inv c s) (hi : i < c.pool k)
    (hpc : (s.proc k i).pc = .closeTeam) :
    s.playerRegistered = 0 ∧ total c s.view .player View.registering = 0 ∧
      total c s.view .goalie View.registering = 0 ∧
      ∀ k', s.waitTeam k' = 0 ∧ total c s.view k' View.reading = 0 ∧
        total c s.view k' (View.holds s.teamId) = c.called k .closeTeam k' := by
  have hf : (s.proc k i).pc.forming := by simp [hpc, PC.forming]
  have hL := hI.ledger
  have hcall : ∀ k', s.waitTeam k' + total c s.view k' View.reading +
      total c s.view k' (View.holds s.teamId) = c.called k .closeTeam k' := fun k' => by
    have h1 := (hL.at k').called
    have h2 := (hL.at k').current
    rw [hI.calls_eq hi hf, hpc] at h1
    omega
  have hR := hL.registered
  have hCp := hL.player.current
  have hCg := hL.goalie.current
  have hwp := hcall .player
  have hwg := hcall .goalie
  rw [hI.acks_eq hi hf, hpc] at hR
  simp only [Config.share, Nat.one_mul] at hCp hCg
  have hNT : (c.numTeamPlayers + 1) * (s.teamId - 1) =
      c.numTeamPlayers * (s.teamId - 1) + (s.teamId - 1) := Nat.succ_mul _ _
  have hsum : c.called k .closeTeam .player + c.called k .closeTeam .goalie =
      c.numTeamPlayers ∧ c.acked k .closeTeam = c.numTeamPlayers := by
    cases k <;> simp [Config.called, Config.acked]
    omega
  refine ⟨?_, ?_, ?_, fun k' => ?_⟩ <;> (try cases k') <;> omega

/-- The per-kind ledger after a close, over a state `s₀` with `teamId` raised and the last
quota taken off `xFree`. -/
lemma Inv.close_at (hN : 1 ≤ c.numTeamPlayers) (hI : Inv c s) (hi : i < c.pool k)
    (hpc : (s.proc k i).pc = .closeTeam) {s₀ : State} (h₀ : s₀.proc = s.proc)
    (ha : s₀.arrived = s.arrived) (hw : s₀.waitTeam = s.waitTeam) (ht : s₀.teamId = s.teamId + 1)
    (hfree : ∀ k', s₀.free k' = s.free k' - c.quota k' * (1 - took k .closeTeam k')) (k' : Kind) :
    LedgerAt c (s₀.setProc k i { s.proc k i with pc := .leaveCS, ret := s.teamId }) k' := by
  have hf : (s.proc k i).pc.forming := by simp [hpc, PC.forming]
  have hT1 : 1 ≤ s.teamId := hI.one_le_teamId
  have hv := hI.view_closeTeam hi hpc
  set p : Proc := { s.proc k i with pc := .leaveCS, ret := s.teamId } with hp
  have hv' : p.view = ⟨.signalReferee, s.teamId, .captain⟩ := by
    have := (hI.good k i hi).2.2.2
    simp only [Fits, hpc] at this
    simp [hp, Proc.view, PC.canon, this.1]
  have e : ∀ f, total c (s₀.setProc k i p).view k' f +
      (if k' = k then f ⟨.closeTeam, 0, .captain⟩ else 0) =
      total c s.view k' f + (if k' = k then f ⟨.signalReferee, s.teamId, .captain⟩ else 0) := fun f => by
    rw [← hv, ← hv']; exact total_setProc h₀ hi k' f
  have hsame : ∀ f : View → Nat, f ⟨.signalReferee, s.teamId, .captain⟩ = f ⟨.closeTeam, 0, .captain⟩ →
      total c (s₀.setProc k i p).view k' f = total c s.view k' f := fun f hf => by
    have := e f; split at this <;> omega
  have hcalls : (s₀.setProc k i p).calls c k' = 0 := by
    have := calls_setProc h₀ hi k' (p := p)
    rw [hv, hv', hI.calls_eq hi hf, hpc] at this
    dsimp only at this
    rw [called_eq_zero (q := .signalReferee) rfl] at this
    omega
  have hres : (s₀.setProc k i p).reserved c k' = s₀.free k' := by
    have := taken_setProc h₀ hi k' (p := p)
    rw [hv, hv', hI.taken_eq hi hf, hpc] at this
    dsimp only at this
    rw [took_eq_zero (q := .signalReferee) rfl] at this
    simp only [State.reserved, State.setProc_free, (by omega : (s₀.setProc k i p).taken c k' = 0),
      Nat.mul_zero, Nat.add_zero]
  have hmul : ∀ n : Nat, n * (s.teamId + 1 - 1) = n * (s.teamId - 1) + n := fun n => by
    rw [Nat.add_sub_cancel, ← Nat.mul_succ, Nat.succ_eq_add_one, Nat.sub_add_cancel hT1]
  have hsh : c.called k .closeTeam k' + (if k' = k then 1 else 0) = c.share k' := by
    cases k <;> cases k' <;> simp [Config.called, Config.share]
    omega
  obtain ⟨-, -, -, hz⟩ := hI.closing hN hi hpc
  obtain ⟨hz1, hz2, hz3⟩ := hz k'
  obtain ⟨h1, h2, h3, h4, h5, h6, h7⟩ := hI.ledger.at k'
  have eH := e View.holding
  have eT := e (View.holds s.teamId)
  have hT0 : s.teamId ≠ 0 := by omega
  simp only [View.holding, View.holds, hT0, if_true, if_false, eq_comm (a := 0), reduceCtorEq,
    ite_self, Nat.add_zero] at eH eT
  refine ⟨?_, ?_, ?_, ?_, ?_, fun t => ?_, fun t => ?_⟩ <;>
    simp only [State.setProc_arrived, State.setProc_teamId, State.setProc_waitTeam, ha, hw, ht,
      hsame View.entered rfl, hsame View.admitted rfl, hsame View.reading rfl, hcalls, hres, hmul]
  · exact h1
  · exact h2
  · omega
  · have hb := hI.ledger.busy (le_antisymm hI.forming_le (s.one_le_forming hi hf))
    have hrk : s.reserved c k' = s.free k' + c.quota k' * took k .closeTeam k' := by
      rw [State.reserved, hI.taken_eq hi hf, hpc]
    have hq : c.quota k' ≤ s.reserved c k' := by
      cases k' <;> simp only [Config.quota_player, Config.quota_goalie] <;> omega
    rw [hfree]
    cases k <;> cases k' <;> simp only [took] at hrk ⊢ <;> omega
  · have eT1 := e (View.holds (s.teamId + 1))
    simp only [View.holds, if_neg (by omega : ¬ (0 = s.teamId + 1)),
      if_neg (by omega : ¬ (s.teamId = s.teamId + 1)), ite_self, Nat.add_zero] at eT1
    have := h7 (s.teamId + 1) (by omega)
    omega
  · intro h1 h2
    rcases Nat.lt_or_ge t s.teamId with h | h
    · rw [hsame (View.holds t) (by simp only [View.holds]; rw [if_neg (by omega), if_neg (by omega)])]
      exact h6 t h1 h
    · obtain rfl : t = s.teamId := by omega
      omega
  · intro h1
    rw [hsame (View.holds t) (by simp only [View.holds]; rw [if_neg (by omega), if_neg (by omega)])]
    exact h7 t (by omega)

/-- **Closing a team** (`ret = teamId++`, player line 226, goalie line 210), over a state
`s₀` with `teamId` raised and the last quota taken off `xFree`: the captain holds the id,
its team is complete, and the free counters no longer meet both quotas. -/
lemma Inv.close (hN : 1 ≤ c.numTeamPlayers) (hG : 1 ≤ c.numTeamGoalies) (hI : Inv c s)
    (hi : i < c.pool k) (hpc : (s.proc k i).pc = .closeTeam) {s₀ : State} (h₀ : s₀.proc = s.proc)
    (ha : s₀.arrived = s.arrived) (hw : s₀.waitTeam = s.waitTeam)
    (hr : s₀.playerRegistered = s.playerRegistered) (hst : s₀.stat = s.stat)
    (hh : s₀.hist = s.hist) (hm : s₀.mutex = s.mutex)
    (hrw : s₀.refereeWaitTeams = s.refereeWaitTeams) (ht : s₀.teamId = s.teamId + 1)
    (hfree : ∀ k', s₀.free k' = s.free k' - c.quota k' * (1 - took k .closeTeam k')) :
    Inv c (s₀.setProc k i { s.proc k i with pc := .leaveCS, ret := s.teamId }) := by
  have hg := (hI.good k i hi).2.2.2
  simp only [Fits, hpc] at hg
  have hf : (s.proc k i).pc.forming := by simp [hpc, PC.forming]
  have hfm : s.forming c = 1 := le_antisymm hI.forming_le (s.one_le_forming hi hf)
  have hL := hI.ledger
  have hT1 : 1 ≤ s.teamId := hI.one_le_teamId
  have hT2 : s.teamId ≤ 2 := (hI.teamId_le hN).2 (by omega)
  have hv := hI.view_closeTeam hi hpc
  set p : Proc := { s.proc k i with pc := .leaveCS, ret := s.teamId } with hp
  have hv' : p.view = ⟨.signalReferee, s.teamId, .captain⟩ := by simp [hp, Proc.view, PC.canon, hg.1]
  refine hI.of_step hi rfl h₀ (fun k => ha ▸ le_rfl)
    (fun _ _ _ => by rw [hst, hh]; exact ⟨rfl, rfl⟩) (by simp [hm, PC.inCS, hpc])
    ⟨hT2, (hI.good k i hi).2.1, (hI.good k i hi).2.2.1, by simp [Fits, hp, hg.1]; omega⟩
    (by rw [hst, hh]; exact (hI.recorded k i hi).goto (by simp [Proc.written, hpc]))
    ⟨ha ▸ hI.rank_le k i hi, .inl rfl⟩ ?_
  have e : ∀ f k', total c (s₀.setProc k i p).view k' f +
      (if k' = k then f ⟨.closeTeam, 0, .captain⟩ else 0) =
      total c s.view k' f + (if k' = k then f ⟨.signalReferee, s.teamId, .captain⟩ else 0) :=
    fun f k' => by rw [← hv, ← hv']; exact total_setProc h₀ hi k' f
  have hsame : ∀ f : View → Nat, f ⟨.signalReferee, s.teamId, .captain⟩ = f ⟨.closeTeam, 0, .captain⟩ →
      ∀ k', total c (s₀.setProc k i p).view k' f = total c s.view k' f := fun f hf k' => by
    have := e f k'; split at this <;> omega
  have hT0 : s.teamId ≠ 0 := by omega
  refine ⟨hI.close_at hN hi hpc h₀ ha hw ht hfree _, hI.close_at hN hi hpc h₀ ha hw ht hfree _,
    ?_, ?_, ?_, fun t h1 => ?_, fun h0 => ?_, fun h1 => absurd h1 ?_⟩
  · -- every holder of the new id, the captain with them, is registered
    simp only [State.setProc_teamId, State.setProc_playerRegistered, ht, hr,
      hsame View.registering rfl]
    obtain ⟨h0, hrp, hrg, hz⟩ := hI.closing hN hi hpc
    have hR := hL.registered
    have hCp := hL.player.current
    have hCg := hL.goalie.current
    have eHp := e View.holding .player
    have eHg := e View.holding .goalie
    have hak := acks_setProc h₀ hi (p := p)
    rw [hv, hv', hI.acks_eq hi hf, hpc] at hak
    dsimp only at hak
    rw [acked_eq_zero (q := .signalReferee) rfl] at hak
    have hNT : (c.numTeamPlayers + 1) * (s.teamId + 1 - 1) =
        (c.numTeamPlayers + 1) * (s.teamId - 1) + (c.numTeamPlayers + 1) := by
      rw [Nat.add_sub_cancel, ← Nat.mul_succ, Nat.succ_eq_add_one, Nat.sub_add_cancel hT1]
    have hNT' : (c.numTeamPlayers + 1) * (s.teamId - 1) =
        c.numTeamPlayers * (s.teamId - 1) + (s.teamId - 1) := Nat.succ_mul _ _
    have hzp := (hz .player).2.2
    have hzg := (hz .goalie).2.2
    simp only [View.holding, hT0, if_true, if_false, ite_self, Nat.add_zero] at eHp eHg
    simp only [Config.share, Nat.one_mul] at hCp hCg
    cases k <;> simp only [Config.acked, Config.called, reduceCtorEq, if_true, if_false,
      Nat.add_zero] at hzp hzg hak eHp eHg <;> omega
  · have eCp := e View.closed .player
    have eCg := e View.closed .goalie
    have := hL.closed
    simp only [View.closed, hT0, ne_eq, not_false_eq_true, not_true_eq_false, and_true,
      and_false, if_true, if_false, ite_self, Nat.add_zero] at eCp eCg
    simp only [State.setProc_teamId, ht]
    cases k <;> simp only [reduceCtorEq, if_true, if_false, Nat.add_zero] at eCp eCg <;> omega
  · -- the captain is to raise refereeWaitTeams for the new team
    have eSp := e View.signaling .player
    have eSg := e View.signaling .goalie
    have := hL.referee
    simp only [View.signaling, reduceCtorEq, if_true, if_false, ite_self, Nat.add_zero] at eSp eSg
    simp only [State.setProc_teamId, State.setProc_refereeWaitTeams, ht, hrw]
    cases k <;> simp only [reduceCtorEq, if_true, if_false, Nat.add_zero] at eSp eSg <;> omega
  · have ep := e (View.captainOf t) .player
    have eg := e (View.captainOf t) .goalie
    have := hL.captain t h1
    simp only [State.setProc_teamId, ht]
    simp only [View.captainOf, if_neg (by omega : ¬ (0 = t)), and_false, if_false, ite_self,
      Nat.add_zero, true_and] at ep eg
    rcases Nat.lt_trichotomy t s.teamId with h | rfl | h
    · simp only [eq_comm (a := s.teamId), h.ne, if_false, ite_self, Nat.add_zero,
        if_pos h, if_pos (Nat.lt_succ_of_lt h)] at ep eg this ⊢
      omega
    · cases k <;> simp [Nat.lt_irrefl] at ep eg this ⊢ <;> omega
    · simp only [eq_comm (a := s.teamId), h.ne', if_false, ite_self, Nat.add_zero,
        if_neg (Nat.lt_asymm h), if_neg (by omega : ¬ t < s.teamId + 1)] at ep eg this ⊢
      omega
  · -- the captain found just enough free at its decision, and took it
    have hb := hL.busy hfm
    have hF : ∀ k', total c s.view k' View.forming = if k' = k then 1 else 0 := fun k' => by
      rw [hI.total_captain hi hf (fun v h => by simp [View.forming, h]) k', hv]; rfl
    have hrs : ∀ k', s.reserved c k' = s.free k' + c.quota k' * took k .closeTeam k' :=
      fun k' => by rw [State.reserved, hI.taken_eq hi hf, hpc]
    have hFp := hF .player
    have hFg := hF .goalie
    have hrp := hrs .player
    have hrg := hrs .goalie
    have hfp := hfree .player
    have hfg := hfree .goalie
    obtain ⟨hb1, hb2, hb3⟩ := hb
    simp only [State.setProc_free]
    cases k <;> simp only [reduceCtorEq, if_true, if_false, took, Config.quota_player,
      Config.quota_goalie] at hFp hFg hrp hrg hfp hfg ⊢ <;> omega
  · -- no one forms any more
    have := forming_setProc h₀ hi (p := p)
    rw [hv, hv'] at this
    simp only [View.forming, PC.forming, if_true, Bool.false_eq_true, if_false] at this
    omega

/-- The captain's `ret = teamId++` with the last quota taken off `xFree` (player lines
225-226, goalie lines 209-210). -/
lemma Inv.step_closeTeam (hN : 1 ≤ c.numTeamPlayers) (hG : 1 ≤ c.numTeamGoalies)
    (hI : Inv c s) (hi : i < c.pool k) (hpc : (s.proc k i).pc = .closeTeam)
    (h : step c s k i = some s') : Inv c s' := by
  simp only [step, hpc] at h
  cases k <;> simp only [Option.some.injEq] at h <;> subst h <;>
    exact hI.close hN hG hi hpc rfl rfl rfl rfl rfl rfl rfl rfl rfl
      (fun k' => by cases k' <;> simp [State.takeFree, took])

end SoccerGame
