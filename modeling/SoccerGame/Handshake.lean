import SoccerGame.Census

/-!
The registration handshake between a forming captain and the recruits it releases.

* `OneOutstanding`: at most one released recruit outstanding while a captain forms;
* `player_captain_one_outstanding`: the player captain interleaves its calls and waits, so
  it never has more than one;
* `goalie_captain_outstanding`: the goalie captain calls all `NUMTEAMPLAYERS` players before
  its first wait; at its `j`-th wait `NUMTEAMPLAYERS - j` are outstanding;
* `goalie_captain_batches`: so for `NUMTEAMPLAYERS = 2` a goalie captain has two.
-/

namespace SoccerGame

variable {c : Config} {s : State} {i j : Nat}

/-- The player captain's calls run at most one ahead of its completed waits. -/
lemma Config.player_called_le (c : Config) (q : PC) :
    c.called .player q .player + c.called .player q .goalie ≤ c.acked .player q + 1 := by
  cases q <;> simp [Config.called, Config.acked]

/-- Two players and a goalie, `NUMTEAMPLAYERS = 2`: the goalie and the first player wait,
the second player becomes captain and calls one player. -/
def playerCallsOne : List Act :=
  List.replicate 6 (.proc .goalie 0) ++ List.replicate 6 (.proc .player 0) ++
    List.replicate 5 (.proc .player 1)

/-- **The player captain's handshake is one-to-one**: while it forms, at most one recruit it
released is not yet acknowledged. -/
theorem player_captain_one_outstanding (hN : 1 ≤ c.numTeamPlayers) (hG : 1 ≤ c.numTeamGoalies)
    (h : Reachable c s) (hi : i < c.numPlayers) (hf : (s.proc .player i).pc.forming) :
    s.outstanding c ≤ 1 := by
  have hI := h.inv hN hG
  have := hI.outstanding_eq (k := .player) hi hf
  have := c.player_called_le (s.proc .player i).pc
  omega

/-- At the end of `playerCallsOne` the player captain waits for its first registration. -/
theorem player_captain_one_outstanding_run :
    ∃ s, Reachable ⟨2, 1, 2, 1⟩ s ∧ (s.proc .player 1).pc.forming ∧
      s.outstanding ⟨2, 1, 2, 1⟩ ≤ 1 := by
  obtain ⟨s, hs, hf⟩ := run_witness ⟨2, 1, 2, 1⟩ (fun _ _ => .arriving) playerCallsOne
    (p := fun s => (s.proc .player 1).pc.forming) (by decide)
  exact ⟨s, hs, hf, player_captain_one_outstanding (c := ⟨2, 1, 2, 1⟩) (by decide) le_rfl hs
    (by decide) hf⟩

/-- **The goalie captain's handshake is batched**: at its `j`-th wait on
`playerRegistered`, `NUMTEAMPLAYERS - j` released players are outstanding. -/
theorem goalie_captain_outstanding (hN : 1 ≤ c.numTeamPlayers) (hG : 1 ≤ c.numTeamGoalies)
    (h : Reachable c s) (hi : i < c.numGoalies) (hpc : (s.proc .goalie i).pc = .collectPlayer j) :
    s.outstanding c = c.numTeamPlayers - j := by
  have hI := h.inv hN hG
  have := hI.outstanding_eq (k := .goalie) hi (by simp [hpc, PC.forming])
  have hj := (hI.good .goalie i hi).2.2.2
  simp only [Fits, hpc] at hj
  simp only [hpc, Config.called, Config.acked] at this
  omega

/-- Two players and a goalie, `NUMTEAMPLAYERS = 2`: both players wait, the goalie becomes
captain and calls both. -/
def goalieCallsTwo : List Act :=
  List.replicate 6 (.proc .player 0) ++ List.replicate 6 (.proc .player 1) ++
    List.replicate 6 (.proc .goalie 0)

/-- At the end of `goalieCallsTwo` the goalie captain waits for its first registration with
both players outstanding. -/
theorem goalie_captain_outstanding_two :
    ∃ s, Reachable ⟨2, 1, 2, 1⟩ s ∧ (s.proc .goalie 0).pc = .collectPlayer 0 ∧
      s.outstanding ⟨2, 1, 2, 1⟩ = 2 := by
  obtain ⟨s, hs, hpc⟩ := run_witness ⟨2, 1, 2, 1⟩ (fun _ _ => .arriving) goalieCallsTwo
    (p := fun s => (s.proc .goalie 0).pc = .collectPlayer 0) (by decide)
  exact ⟨s, hs, hpc, goalie_captain_outstanding (c := ⟨2, 1, 2, 1⟩) (by decide) le_rfl hs
    (by decide) hpc⟩

/-- Modelled from the spec: during a team's formation the captain has at most one released
recruit outstanding. -/
def OneOutstanding (c : Config) (s : State) : Prop := 0 < s.forming c → s.outstanding c ≤ 1

instance (c : Config) : DecidablePred (OneOutstanding c) :=
  fun _ => inferInstanceAs (Decidable (_ → _))

/-- For `NUMTEAMPLAYERS = 2` the handshake is not one-to-one: at the end of
`goalieCallsTwo` the goalie captain has released two players and acknowledged none. -/
theorem goalie_captain_batches :
    ∃ s, Reachable ⟨2, 1, 2, 1⟩ s ∧ ¬ OneOutstanding ⟨2, 1, 2, 1⟩ s :=
  run_witness _ (fun _ _ => .arriving) goalieCallsTwo (by decide)

end SoccerGame
