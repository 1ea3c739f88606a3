import SoccerGame.Life

/-!
The rendezvous with the referee. A captain holds `mutex` from its decision in
`xConstituteTeam` to the `semUp(mutex)` after `ret = teamId++`, and `waitReferee` writes
`WAITING_START_t` inside `mutex`; so no process waits for the start, or plays, in a team
that is still being formed. `refereeWaitTeams` is raised only by a captain that has closed
its team. For `NUMTEAMPLAYERS ≥ 1` and `NUMTEAMGOALIES ≥ 1`.

* `PC.inMatch`: the steps from the critical region of `waitReferee` to the end of
  `playUntilEnd`;
* `step_teamId_le`, `step_ret`, `PC.inMatch_of_succs`: a step keeps `teamId` or raises it;
  a process comes to a match step only from another one, keeping its `ret`, or from
  `waitReferee` into its critical region;
* `Reachable.inMatch_lt`: in every reachable state a process at a match step holds an id
  below `teamId`, one whose captain has closed the team;
* `match_teams_complete`: the teams the referee has been told of, and the team of every
  process at a match step, hold `NUMTEAMPLAYERS` players and one goalie: for
  `NUMTEAMGOALIES = 2` a team meets the referee one goalie short.
-/

namespace SoccerGame

/-- The steps from the critical region of `waitReferee` to the end of `playUntilEnd`. -/
def PC.inMatch : PC → Bool
  | .waitRefereeCS | .awaitStart | .playUntilEnd | .playCS | .awaitEnd => true
  | _ => false

variable {c : Config} {s s' : State} {k : Kind} {i : Nat}

lemma constitute_teamId : (constitute c s k i).teamId = s.teamId := by
  simp only [constitute]; split_ifs <;> (try cases k) <;> rfl

/-- A process at a match step holds a team id. -/
lemma Fits.ret_ne_zero {p : Proc} (hf : Fits c k p) (hm : p.pc.inMatch) : p.ret ≠ 0 := by
  cases hq : p.pc <;> simp only [hq, PC.inMatch, Bool.false_eq_true] at hm <;>
    simp only [Fits, hq] at hf <;> exact hf.2.2

/-- A step keeps `teamId` or raises it (at `ret = teamId++`). -/
lemma step_teamId_le (h : step c s k i = some s') : s.teamId ≤ s'.teamId := by
  cases hpc : (s.proc k i).pc
  case constituteCS =>
    simp only [step, hpc, Option.some.injEq] at h
    subst h
    exact constitute_teamId.ge
  all_goals
    simp only [step, hpc] at h
    (try split at h) <;> (try split at h) <;> simp only [Option.some.injEq, reduceCtorEq] at h <;>
      subst h
  all_goals simp [State.goto, State.takeFree, State.callTeam]

/-- `waitReferee` and the match steps keep `ret`. -/
lemma step_ret (h : step c s k i = some s')
    (hq : (s.proc k i).pc = .waitReferee ∨ (s.proc k i).pc.inMatch) :
    (s'.proc k i).ret = (s.proc k i).ret := by
  cases hpc : (s.proc k i).pc <;>
    simp only [hpc, PC.inMatch, reduceCtorEq, Bool.false_eq_true, or_false, or_true] at hq <;>
    simp only [step, hpc] at h <;> (try split at h) <;>
    simp only [Option.some.injEq, reduceCtorEq] at h <;> subst h <;> simp [State.goto, State.writes]

/-- A process comes to a match step only from another one, or from `waitReferee` into its
critical region. -/
lemma PC.inMatch_of_succs {q q' : PC} (h : q' ∈ q.succs c) (hm : q'.inMatch) :
    (q = .waitReferee ∧ q' = .waitRefereeCS) ∨ q.inMatch := by
  cases q <;> simp only [PC.succs, List.mem_cons, List.mem_singleton, List.not_mem_nil,
    or_false] at h <;> rcases h with rfl | rfl | rfl <;>
    (try simp only [Config.callFrom, Config.releaseFrom, Config.collectFrom] at hm) <;>
    (try split_ifs at hm) <;> simp_all [PC.inMatch]

/-- **A process at a match step belongs to a closed team**: in every reachable state its id
is below `teamId`. It entered the critical region of `waitReferee` holding `mutex`, so with
no captain forming, when its id had been issued; and `teamId` never goes back. -/
lemma Reachable.inMatch_lt (hN : 1 ≤ c.numTeamPlayers) (hG : 1 ≤ c.numTeamGoalies)
    (h : Reachable c s) :
    ∀ k j, j < c.pool k → (s.proc k j).pc.inMatch → (s.proc k j).ret < s.teamId := by
  obtain ⟨stat₀, h⟩ := h
  induction h with
  | refl => intro k j _ hm; simp [init, Proc.start, PC.inMatch] at hm
  | tail hr hs ih =>
      have hI := Reachable.inv hN hG ⟨stat₀, hr.tail hs⟩
      obtain ⟨a, ha⟩ := hs
      cases a with
      | proc k i =>
          simp only [act] at ha
          split at ha
          · have hT := step_teamId_le ha
            intro k' j hj hm
            by_cases hkj : k' = k ∧ j = i
            · obtain ⟨rfl, rfl⟩ := hkj
              rcases PC.inMatch_of_succs (step_inv ha).1 hm with ⟨-, hw⟩ | hold
              · -- in the critical region of `waitReferee` no captain is forming
                have hf := hI.forming_eq_zero hj (by simp [hw, PC.inCS]) (by simp [hw, PC.forming])
                have h0 := (hI.good k' j hj).2.2.2.ret_ne_zero (by simp [hw, PC.inMatch])
                rcases hI.ret_le hj h0 with hlt | ⟨-, -, h1⟩
                · exact hlt
                · omega
              · rw [step_ret ha (.inr hold)]
                exact (ih k' j hj hold).trans_le hT
            · rw [((step_inv ha).2 k' j hkj).1] at hm ⊢
              exact (ih k' j hj hm).trans_le hT
          · cases ha
      | startMatch => cases ha; exact ih
      | endMatch => cases ha; exact ih

/-- **Only complete teams meet the referee.** In every reachable state, each of the first
`refereeWaitTeams` teams (the teams the referee has been told of, by the `semUp` of their
closed captain) holds `NUMTEAMPLAYERS` players and one goalie, whatever `NUMTEAMGOALIES`
is: the goalie captain itself, or the one goalie a player captain calls; and so does the
team of every process at a match step, from its write of `WAITING_START_t` to the end of
`playUntilEnd`. -/
theorem match_teams_complete (hN : 1 ≤ c.numTeamPlayers) (hG : 1 ≤ c.numTeamGoalies)
    (h : Reachable c s) :
    (∀ t, 1 ≤ t → t ≤ s.refereeWaitTeams →
      total c s.view .player (View.holds t) = c.numTeamPlayers ∧
        total c s.view .goalie (View.holds t) = 1) ∧
      ∀ k j, j < c.pool k → (s.proc k j).pc.inMatch →
        total c s.view .player (View.holds (s.proc k j).ret) = c.numTeamPlayers ∧
          total c s.view .goalie (View.holds (s.proc k j).ret) = 1 := by
  have hI := h.inv hN hG
  have hR := hI.ledger.referee
  refine ⟨fun t h1 ht => ⟨(hI.ledger.at .player).complete t h1 (by omega),
    (hI.ledger.at .goalie).complete t h1 (by omega)⟩, fun k j hj hm => ?_⟩
  have h1 := Nat.one_le_iff_ne_zero.mpr ((hI.good k j hj).2.2.2.ret_ne_zero hm)
  have hlt := h.inMatch_lt hN hG k j hj hm
  exact ⟨(hI.ledger.at .player).complete _ h1 hlt, (hI.ledger.at .goalie).complete _ h1 hlt⟩

/-- With two goalies a team, one player and two goalies (`NUMTEAMGOALIES = 2`): both goalies
wait, the player forms team 1 and calls one of them, and tells the referee of a team with
that goalie alone, one short of `NUMTEAMGOALIES`. -/
theorem match_teams_complete_two_goalies :
    ∃ s, Reachable ⟨1, 2, 1, 2⟩ s ∧ s.refereeWaitTeams = 1 ∧
      total ⟨1, 2, 1, 2⟩ s.view .goalie (View.holds 1) = 1 ∧
      total ⟨1, 2, 1, 2⟩ s.view .goalie (View.holds 1) < Config.numTeamGoalies ⟨1, 2, 1, 2⟩ := by
  obtain ⟨s, hs, hR⟩ := run_witness ⟨1, 2, 1, 2⟩ (fun _ _ => .arriving)
    (List.replicate 6 (.proc .goalie 1) ++ firstTeam) (p := fun s => s.refereeWaitTeams = 1)
    (by decide)
  have h1 := ((match_teams_complete (c := ⟨1, 2, 1, 2⟩) le_rfl (by decide) hs).1 1 le_rfl
    (by omega)).2
  exact ⟨s, hs, hR, h1, by rw [h1]; decide⟩

end SoccerGame
