import SoccerGame.Census

/-!
The teams: who obtains which id, and who is late.

* `team_composition`: every issued id has one captain; a recruit past its wait reads
  `teamId` while the captain that called it still forms, so it obtains that captain's id and
  never a later one; an id is held by at most `NUMTEAMPLAYERS` players and one goalie, and
  by exactly that many once its captain has closed the team;
* `late_and_team_ids`: a process returns from `xConstituteTeam` late, with status `LATE`
  and result 0, exactly when it entered the critical region after `2 * quota` others of its
  kind; every other result is 1 or 2; `1 ≤ teamId ≤ 3`, `teamId - 1` counts the captains
  that have closed their team, and a captain still forming is the only other one;
* `teamId_lags_captain`: between its decision and `ret = teamId++` a captain has taken the
  `FORMING_TEAM` branch and `teamId` does not yet show it.
-/

namespace SoccerGame

variable {c : Config} {s : State} {k : Kind} {i : Nat}

/-! ### Team ids -/

/-- A process that holds an id took the captain's or the recruit's branch. -/
lemma Good.role_of_ret {p : Proc} (hg : Good c k p) (h : p.ret ≠ 0) :
    p.role = .captain ∨ p.role = .recruit := by
  have e := hg.admitted_eq
  by_contra hr
  push_neg at hr
  simp [View.admitted, View.holding, Proc.view, hr.1, hr.2, h] at e
  omega

/-- A forming captain calls at most a team's share of each kind. -/
lemma Inv.calls_le (hN : 1 ≤ c.numTeamPlayers) (hI : Inv c s) (k : Kind) :
    s.calls c k ≤ c.share k := by
  rcases Nat.eq_zero_or_pos (s.forming c) with h0 | h1
  · simp [s.calls_eq_zero h0]
  · obtain ⟨kc, j, hj, hf⟩ := s.exists_forming h1
    have := (hI.good kc j hj).2.2.2.called_le hN hf k
    rw [hI.calls_eq hj hf]
    omega

/-- **No team is overfull**: the holders of an id of kind `k` are at most a team's share,
and exactly that once the id's captain has closed the team. -/
lemma Inv.holds_le (hN : 1 ≤ c.numTeamPlayers) (hI : Inv c s) {t : Nat} (ht : 1 ≤ t)
    (k : Kind) : total c s.view k (View.holds t) ≤ c.share k := by
  rcases Nat.lt_trichotomy t s.teamId with h | rfl | h
  · exact ((hI.ledger.at k).complete t ht h).le
  · have := hI.holdsCurrent k
    have := hI.calls_le hN k
    omega
  · simp [(hI.ledger.at k).unissued t h]

/-- A call not yet answered is a captain's: one forms. -/
lemma Inv.forming_eq_one (hI : Inv c s) (h : s.calls c k ≠ 0) : s.forming c = 1 :=
  le_antisymm hI.forming_le (Nat.one_le_iff_ne_zero.mpr fun h0 => h (s.calls_eq_zero h0 k))

/-- A process that holds an id holds an issued one, and the current `teamId` only as a
recruit of the captain still forming. -/
lemma Inv.ret_le (hI : Inv c s) (hj : i < c.pool k) (h0 : (s.proc k i).ret ≠ 0) :
    (s.proc k i).ret < s.teamId ∨
      ((s.proc k i).ret = s.teamId ∧ (s.proc k i).role = .recruit ∧ s.forming c = 1) := by
  have hle := le_total (v := s.view) (f := View.holds (s.proc k i).ret) hj
  simp only [State.view, Proc.view, View.holds, if_true] at hle
  rcases Nat.lt_trichotomy (s.proc k i).ret s.teamId with h | h | h
  · exact .inl h
  · refine .inr ⟨h, ?_, ?_⟩
    · -- the captain of `teamId` is yet to close
      have hc := hI.ledger.captain _ (Nat.one_le_iff_ne_zero.mpr h0)
      have hcap := le_total (v := s.view) (f := View.captainOf (s.proc k i).ret) hj
      rw [if_neg (by omega)] at hc
      refine ((hI.good k i hj).role_of_ret h0).resolve_left fun hr => ?_
      simp only [State.view, Proc.view, View.captainOf, hr, and_self, if_true] at hcap
      cases k <;> omega
    · -- the holders of `teamId` were called by the forming captain
      have hH := hI.holdsCurrent k
      rw [h] at hle
      exact hI.forming_eq_one (k := k) (by omega)
  · have := (hI.ledger.at k).unissued _ h
    simp only [State.view, Proc.view] at this
    omega

/-- **Team composition.** Every issued id has one captain and no other id has one; a
recruit past its wait reads `teamId` while a captain forms; the holders of the current
`teamId`, with the pending wake-ups and the readers, are that captain's calls, so a recruit
obtains the id of the captain that called it and never a later one; and an id is held by at
most `NUMTEAMPLAYERS` players and one goalie, exactly that many once its team is closed. -/
theorem team_composition (hN : 1 ≤ c.numTeamPlayers) (hG : 1 ≤ c.numTeamGoalies)
    (h : Reachable c s) :
    (∀ t, 1 ≤ t → total c s.view .player (View.captainOf t) +
      total c s.view .goalie (View.captainOf t) = if t < s.teamId then 1 else 0) ∧
    (∀ k j, j < c.pool k → (s.proc k j).pc = .readTeamId → s.forming c = 1) ∧
    (∀ k, s.waitTeam k + total c s.view k View.reading +
      total c s.view k (View.holds s.teamId) = s.calls c k) ∧
    (∀ k j, j < c.pool k → (s.proc k j).ret ≠ 0 → (s.proc k j).ret < s.teamId ∨
      ((s.proc k j).ret = s.teamId ∧ (s.proc k j).role = .recruit ∧ s.forming c = 1)) ∧
    (∀ t, 1 ≤ t → ∀ k, total c s.view k (View.holds t) ≤ c.share k ∧
      (t < s.teamId → total c s.view k (View.holds t) = c.share k)) := by
  have hI := h.inv hN hG
  refine ⟨hI.ledger.captain, fun k j hj hpc => ?_, hI.holdsCurrent, fun k j hj => hI.ret_le hj,
    fun t ht k => ⟨hI.holds_le hN ht k, (hI.ledger.at k).complete t ht⟩⟩
  have hr := le_total (v := s.view) (f := View.reading) hj
  have hH := hI.holdsCurrent k
  simp only [State.view, Proc.view, PC.canon, hpc, View.reading, if_true] at hr
  exact hI.forming_eq_one (k := k) (by omega)

/-- One player and one goalie a team. While player 0 forms team 1, goalie 0 reads
`teamId` with the captain forming; once the captain has closed the team, id 1 has one
captain and is held by one player and one goalie. -/
theorem team_composition_run :
    (∃ s, Reachable ⟨1, 1, 1, 1⟩ s ∧ (s.proc .goalie 0).pc = .readTeamId ∧
      s.forming ⟨1, 1, 1, 1⟩ = 1) ∧
    ∃ s, Reachable ⟨1, 1, 1, 1⟩ s ∧ s.teamId = 2 ∧
      total ⟨1, 1, 1, 1⟩ s.view .player (View.captainOf 1) +
        total ⟨1, 1, 1, 1⟩ s.view .goalie (View.captainOf 1) = 1 ∧
      ∀ k, total ⟨1, 1, 1, 1⟩ s.view k (View.holds 1) = Config.share ⟨1, 1, 1, 1⟩ k := by
  obtain ⟨s, hs, hpc⟩ := run_witness ⟨1, 1, 1, 1⟩ (fun _ _ => .arriving)
    (List.replicate 6 (.proc .goalie 0) ++ List.replicate 5 (.proc .player 0) ++
      [.proc .goalie 0]) (p := fun s => (s.proc .goalie 0).pc = .readTeamId) (by decide)
  obtain ⟨s', hs', hT⟩ := run_witness ⟨1, 1, 1, 1⟩ (fun _ _ => .arriving) firstTeam
    (p := fun s => s.teamId = 2) (by decide)
  have h := team_composition (c := ⟨1, 1, 1, 1⟩) le_rfl le_rfl hs'
  refine ⟨⟨s, hs, hpc, (team_composition (c := ⟨1, 1, 1, 1⟩) le_rfl le_rfl hs).2.1 .goalie 0
    (by decide) hpc⟩, s', hs', hT, by simpa [hT] using h.1 1 le_rfl,
    fun k => (h.2.2.2.2 1 le_rfl k).2 (by omega)⟩

/-! ### Late processes and the bound on team ids -/

/-- It took the `FORMING_TEAM` branch. -/
def View.captain (v : View) : Nat := if v.role = .captain then 1 else 0

/-- Modelled from the spec: the processes that have taken the `FORMING_TEAM` branch. -/
def State.captains (c : Config) (s : State) : Nat :=
  total c s.view .player View.captain + total c s.view .goalie View.captain

/-- A captain has closed its team or still forms it. -/
lemma Good.captain_eq {p : Proc} (hg : Good c k p) :
    View.captain p.view = View.closed p.view + View.forming p.view := by
  obtain ⟨-, -, -, hf⟩ := hg
  obtain ⟨q, r, o, role⟩ := p
  cases q <;> simp only [Fits] at hf <;> cases role <;>
    simp_all [Proc.view, PC.canon, PC.forming, View.captain, View.closed, View.forming]

/-- The captains are the closed ones and the one forming. -/
lemma Inv.captains_eq (hI : Inv c s) :
    s.captains c = total c s.view .player View.closed + total c s.view .goalie View.closed +
      s.forming c := by
  have e : ∀ k, total c s.view k View.captain =
      total c s.view k View.closed + total c s.view k View.forming := fun k => by
    rw [← total_add]
    exact total_congr fun j hj => (hI.good k j hj).captain_eq
  simp only [State.captains, State.forming, e]
  omega

/-- A process at the return of `xConstituteTeam`: late, with status `LATE` and result 0,
exactly past `2 * quota` arrivals, and otherwise with result 1 or 2. -/
lemma Inv.returned (hI : Inv c s) (hj : i < c.pool k) (hpc : (s.proc k i).pc = .returned) :
    ((s.stat k i = .late ∧ (s.proc k i).ret = 0) ↔ 2 * c.quota k < (s.proc k i).order) ∧
      (¬ 2 * c.quota k < (s.proc k i).order →
        (s.proc k i).ret = 1 ∨ (s.proc k i).ret = 2) := by
  obtain ⟨hr2, -, hlate, hf⟩ := hI.good k i hj
  simp only [Fits, hpc] at hf
  have hst : s.stat k i = (s.proc k i).role.stat :=
    (hI.recorded k i hj).stat_eq (l := [.arriving]) (by simp [Proc.written, hpc])
  rw [hst, ← hlate]
  refine ⟨?_, fun hn => ?_⟩
  · cases h : (s.proc k i).role <;> simp_all [Role.stat]
  · have := hf.2.not.mpr hn
    omega

/-- **Late arrivals and the bound on team ids.** A process returns late, with status `LATE`
and result 0, exactly when more than `2 * quota` of its kind entered before it or with it;
any other result is 1 or 2. `teamId` stays within 1 … 3, `teamId - 1` counts the closed
captains, and the processes that took the `FORMING_TEAM` branch are these and at most one
captain still forming. -/
theorem late_and_team_ids (hN : 1 ≤ c.numTeamPlayers) (hG : 1 ≤ c.numTeamGoalies)
    (h : Reachable c s) :
    (∀ k j, j < c.pool k → (s.proc k j).pc = .returned →
      ((s.stat k j = .late ∧ (s.proc k j).ret = 0) ↔ 2 * c.quota k < (s.proc k j).order) ∧
      (¬ 2 * c.quota k < (s.proc k j).order → (s.proc k j).ret = 1 ∨ (s.proc k j).ret = 2)) ∧
    1 ≤ s.teamId ∧ s.teamId ≤ 3 ∧
    s.teamId - 1 = total c s.view .player View.closed + total c s.view .goalie View.closed ∧
    s.captains c = s.teamId - 1 + s.forming c ∧ s.forming c ≤ 1 := by
  have hI := h.inv hN hG
  have hC := hI.ledger.closed
  exact ⟨fun k j hj => hI.returned hj, hI.one_le_teamId, (hI.teamId_le hN).1, by omega,
    by rw [hI.captains_eq]; omega, hI.forming_le⟩

/-- One player and three goalies, one of each a team: after team 1 is formed, goalie 1
arrives and waits, and goalie 2, the third goalie to enter, returns late with result 0;
one captain has closed its team and `teamId` is 2. -/
theorem late_and_team_ids_late :
    ∃ s, Reachable ⟨1, 3, 1, 1⟩ s ∧ s.stat .goalie 2 = .late ∧ (s.proc .goalie 2).ret = 0 ∧
      s.teamId = 2 ∧ s.captains ⟨1, 3, 1, 1⟩ = 1 := by
  obtain ⟨s, hs, hpc, ho, hT, hf⟩ := run_witness ⟨1, 3, 1, 1⟩ (fun _ _ => .arriving)
    (firstTeam ++ List.replicate 6 (.proc .goalie 1) ++ List.replicate 6 (.proc .goalie 2))
    (p := fun s => (s.proc .goalie 2).pc = .returned ∧
      2 * Config.quota ⟨1, 3, 1, 1⟩ .goalie < (s.proc .goalie 2).order ∧ s.teamId = 2 ∧
      s.forming ⟨1, 3, 1, 1⟩ = 0) (by decide)
  have h := late_and_team_ids (c := ⟨1, 3, 1, 1⟩) le_rfl le_rfl hs
  have hl := (h.1 .goalie 2 (by decide) hpc).1.mpr ho
  exact ⟨s, hs, hl.1, hl.2, hT, by rw [h.2.2.2.2.1, hT, hf]⟩

/-- A player captain that has just decided: one process took the `FORMING_TEAM` branch,
and `teamId` is still 1. -/
theorem teamId_lags_captain :
    ∃ s, Reachable ⟨1, 1, 1, 1⟩ s ∧ s.teamId - 1 ≠ s.captains ⟨1, 1, 1, 1⟩ :=
  run_witness _ (fun _ _ => .arriving)
    (List.replicate 5 (.proc .goalie 0) ++ List.replicate 4 (.proc .player 0)) (by decide)

end SoccerGame
