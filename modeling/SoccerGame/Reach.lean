import SoccerGame.Close
import SoccerGame.Decide
import SoccerGame.Quiet

/-!
The invariant holds in every reachable state, of the whole life cycle and of the formation
system alike, for `NUMTEAMPLAYERS ≥ 1` and `NUMTEAMGOALIES ≥ 1`.

* `Inv.step`: every step of every process keeps the invariant, one lemma per step of
  `step`;
* `Inv.act`: so does the referee's `semUp`;
* `Reachable.inv`, `FormReachable.inv`: the invariant of every reachable state.
-/

namespace SoccerGame

variable {c : Config} {s s' : State} {k : Kind} {i : Nat}

/-- **Every step keeps the invariant.** -/
theorem Inv.step (hN : 1 ≤ c.numTeamPlayers) (hG : 1 ≤ c.numTeamGoalies) (hI : Inv c s)
    (hi : i < c.pool k) (h : step c s k i = some s') : Inv c s' := by
  by_cases hq : (s.proc k i).pc.quiet
  · exact hI.step_quiet hi hq h
  cases hpc : (s.proc k i).pc <;> simp only [hpc, PC.quiet, not_true_eq_false] at hq
  · exact hI.step_constituteCS hN hi hpc h
  · exact hI.step_callPlayer hi hpc h
  · exact hI.step_awaitPlayer hi hpc h
  · exact hI.step_callGoalie hi hpc h
  · exact hI.step_awaitGoalie hN hi hpc h
  · exact hI.step_releasePlayer hi hpc h
  · exact hI.step_collectPlayer hi hpc h
  · exact hI.step_closeTeam hN hG hi hpc h
  · exact hI.step_waitTeam hi hpc h
  · exact hI.step_readTeamId hN hi hpc h
  · exact hI.step_register hi hpc h
  · exact hI.step_signalReferee hi hpc h

/-- The referee's gates are read by no part of the invariant. -/
lemma Inv.referee (hI : Inv c s) (hp : s'.proc = s.proc) (ha : s'.arrived = s.arrived)
    (hf : s'.free = s.free) (ht : s'.teamId = s.teamId) (hw : s'.waitTeam = s.waitTeam)
    (hr : s'.playerRegistered = s.playerRegistered)
    (hrw : s'.refereeWaitTeams = s.refereeWaitTeams) (hm : s'.mutex = s.mutex)
    (hst : s'.stat = s.stat) (hh : s'.hist = s.hist) : Inv c s' := by
  have hv : s'.view = s.view := by funext k j; simp only [State.view, hp]
  refine ⟨hI.ledger.congr hv ha hf ht hw hr hrw, by simpa only [State.holders, hp, hm] using hI.mutex,
    ?_, ?_, ?_, ?_⟩ <;> simp only [hp, ha, hst, hh]
  exacts [hI.good, hI.recorded, hI.rank_le, hI.rank_inj]

/-- **Every action keeps the invariant**, the referee's included. -/
theorem Inv.act (hN : 1 ≤ c.numTeamPlayers) (hG : 1 ≤ c.numTeamGoalies) (hI : Inv c s)
    {a : Act} (h : act c s a = some s') : Inv c s' := by
  cases a with
  | proc k i =>
      by_cases hi : i < c.pool k
      · exact hI.step hN hG hi (by simpa [SoccerGame.act, hi] using h)
      · simp [SoccerGame.act, hi] at h
  | startMatch =>
      cases h
      exact hI.referee rfl rfl rfl rfl rfl rfl rfl rfl rfl rfl
  | endMatch =>
      cases h
      exact hI.referee rfl rfl rfl rfl rfl rfl rfl rfl rfl rfl

/-- **The invariant of every reachable state.** -/
theorem Reachable.inv (hN : 1 ≤ c.numTeamPlayers) (hG : 1 ≤ c.numTeamGoalies)
    (h : Reachable c s) : Inv c s := by
  obtain ⟨stat₀, h⟩ := h
  induction h with
  | refl => exact inv_init c hN stat₀
  | tail _ hs ih =>
      obtain ⟨a, ha⟩ := hs
      exact ih.act hN hG ha

/-- The invariant of every state of the formation system. -/
theorem FormReachable.inv (hN : 1 ≤ c.numTeamPlayers) (hG : 1 ≤ c.numTeamGoalies)
    (h : FormReachable c s) : Inv c s :=
  h.reachable.inv hN hG

end SoccerGame
