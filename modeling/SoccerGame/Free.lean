import SoccerGame.Census

/-!
The free counters against the recruits that still wait for a call.

* `State.unreleased`: the processes of a kind whose status is `WAITING_TEAM` and that have
  not passed their wait on `xWaitTeam`; `Inv.unreleased_eq`: they are the waiting recruits;
* `free_counts_waiting`: with no process holding `mutex`, no wake-up or registration is
  pending, `playersFree` counts the unreleased players, `goaliesFree` the unreleased goalies
  less `NUMTEAMGOALIES - 1` per closed team, and the free counters do not meet both quotas;
* `FreeAgrees`, `freeAgrees_of_one_goalie`: the agreement of the free counters with the
  unreleased processes, which holds for `NUMTEAMGOALIES = 1`;
* `goalie_free_miscounted`: for `NUMTEAMGOALIES = 2` a closed team has taken two goalies off
  `goaliesFree` and called one, so a goalie left blocked is no longer counted.
-/

namespace SoccerGame

variable {c : Config} {s : State} {k : Kind}

/-- Modelled from the spec: the processes of kind `k` whose status is `WAITING_TEAM` and
that have not passed their wait on `xWaitTeam`. -/
def State.unreleased (c : Config) (s : State) (k : Kind) : Nat :=
  total c (fun k j => (s.stat k j, (s.proc k j).pc)) k fun x =>
    if x.1 = .waitingTeam ∧ (x.2 = .leaveCS ∨ x.2 = .dispatch ∨ x.2 = .waitTeam) then 1 else 0

/-- A process counts as unreleased exactly when it is a recruit waiting for its call. -/
lemma Good.unreleased_eq {p : Proc} {st : Stat} {h : List Stat} (hg : Good c k p)
    (hr : Recorded p st h) :
    (if st = .waitingTeam ∧ (p.pc = .leaveCS ∨ p.pc = .dispatch ∨ p.pc = .waitTeam) then 1
      else 0) = View.waiting p.view := by
  obtain ⟨-, -, -, hf⟩ := hg
  obtain ⟨q, r, o, role⟩ := p
  cases q <;> simp only [Fits] at hf
  case leaveCS | dispatch | waitTeam =>
    rw [hr.stat_eq (l := [.arriving]) (v := role.stat) (by simp [Proc.written])]
    cases role <;> simp_all [Role.stat, Proc.view, PC.canon, View.waiting]
  all_goals cases role <;> simp_all [Proc.view, PC.canon, View.waiting]

lemma Inv.unreleased_eq (hI : Inv c s) (k : Kind) :
    s.unreleased c k = total c s.view k View.waiting :=
  total_congr fun j hj => (hI.good k j hj).unreleased_eq (hI.recorded k j hj)

/-- No process holds `mutex`: no captain forms. -/
lemma State.forming_eq_zero_of_holders (h0 : s.holders c = 0) : s.forming c = 0 := by
  rw [State.holders_split] at h0; omega

/-- One player and two goalies, `NUMTEAMPLAYERS = 1` and `NUMTEAMGOALIES = 2`: both goalies
wait, the player becomes captain and calls one of them, takes both off `goaliesFree` and
leaves `mutex`; the other goalie still waits. -/
def oneTeamTwoGoalies : List Act :=
  List.replicate 6 (.proc .goalie 0) ++ List.replicate 6 (.proc .goalie 1) ++
    List.replicate 5 (.proc .player 0) ++ List.replicate 3 (.proc .goalie 0) ++
    List.replicate 3 (.proc .player 0)

/-- The free counters when no process holds `mutex`. -/
lemma Inv.free_at_rest (hG : 1 ≤ c.numTeamGoalies) (hI : Inv c s) (h0 : s.holders c = 0) :
    s.waitTeam .player = 0 ∧ s.waitTeam .goalie = 0 ∧ s.playerRegistered = 0 ∧
      s.free .player = s.unreleased c .player ∧
      s.free .goalie + (c.numTeamGoalies - 1) * (s.teamId - 1) = s.unreleased c .goalie ∧
      ¬ (c.numTeamPlayers ≤ s.free .player ∧ c.numTeamGoalies ≤ s.free .goalie) := by
  have hf0 := s.forming_eq_zero_of_holders h0
  obtain ⟨hreg, -, -, hz⟩ := hI.quiet hf0
  obtain ⟨hwp, -, -, hp⟩ := hz .player
  obtain ⟨hwg, -, -, hg⟩ := hz .goalie
  have hG' : c.numTeamGoalies * (s.teamId - 1) =
      (c.numTeamGoalies - 1) * (s.teamId - 1) + (s.teamId - 1) := by
    rw [← Nat.succ_mul, Nat.succ_eq_add_one, Nat.sub_add_cancel hG]
  simp only [Config.quota_player, Config.quota_goalie, Config.share, Nat.one_mul] at hp hg
  rw [hI.unreleased_eq, hI.unreleased_eq]
  exact ⟨hwp, hwg, hreg, by omega, by omega, hI.ledger.idle hf0⟩

/-- **The free counters at rest.** With no process holding `mutex`, no wake-up or
registration is pending, `playersFree` counts the players waiting for a call, and
`goaliesFree` the goalies waiting for a call less `NUMTEAMGOALIES - 1` per closed team:
each closed team took `NUMTEAMGOALIES` goalies off `goaliesFree` and called one. -/
theorem free_counts_waiting (hN : 1 ≤ c.numTeamPlayers) (hG : 1 ≤ c.numTeamGoalies)
    (h : Reachable c s) (h0 : s.holders c = 0) :
    s.waitTeam .player = 0 ∧ s.waitTeam .goalie = 0 ∧ s.playerRegistered = 0 ∧
      s.free .player = s.unreleased c .player ∧
      s.free .goalie + (c.numTeamGoalies - 1) * (s.teamId - 1) = s.unreleased c .goalie ∧
      ¬ (c.numTeamPlayers ≤ s.free .player ∧ c.numTeamGoalies ≤ s.free .goalie) :=
  (h.inv hN hG).free_at_rest hG h0

/-- With two goalies a team, once the first team is closed `goaliesFree` is one short. -/
theorem free_counts_waiting_two_goalies :
    ∃ s, Reachable ⟨1, 2, 1, 2⟩ s ∧ s.holders ⟨1, 2, 1, 2⟩ = 0 ∧
      s.free .goalie + 1 = s.unreleased ⟨1, 2, 1, 2⟩ .goalie := by
  obtain ⟨s, hs, h0, hT⟩ := run_witness ⟨1, 2, 1, 2⟩ (fun _ _ => .arriving) oneTeamTwoGoalies
    (p := fun s => s.holders ⟨1, 2, 1, 2⟩ = 0 ∧ s.teamId = 2) (by decide)
  have h5 := (free_counts_waiting (c := ⟨1, 2, 1, 2⟩) le_rfl (by decide) hs h0).2.2.2.2.1
  exact ⟨s, hs, h0, by simpa [hT] using h5⟩

/-- Modelled from the spec: with no process holding `mutex`, no wake-up or registration is
pending, each free counter counts the unreleased processes of its kind, and the free
counters do not meet both quotas. -/
def FreeAgrees (c : Config) (s : State) : Prop :=
  s.holders c = 0 →
    s.waitTeam .player = 0 ∧ s.waitTeam .goalie = 0 ∧ s.playerRegistered = 0 ∧
      s.free .player = s.unreleased c .player ∧ s.free .goalie = s.unreleased c .goalie ∧
      ¬ (c.numTeamPlayers ≤ s.free .player ∧ c.numTeamGoalies ≤ s.free .goalie)

instance (c : Config) : DecidablePred (FreeAgrees c) := fun _ => inferInstanceAs (Decidable (_ → _))

/-- **The free counters agree with the waiting recruits** when a team takes one goalie. -/
theorem freeAgrees_of_one_goalie (hN : 1 ≤ c.numTeamPlayers) (hG : c.numTeamGoalies = 1)
    (h : Reachable c s) : FreeAgrees c s := fun h0 => by
  obtain ⟨h1, h2, h3, h4, h5, h6⟩ := (h.inv hN hG.ge).free_at_rest hG.ge h0
  rw [hG, Nat.sub_self, Nat.zero_mul, Nat.add_zero] at h5
  exact ⟨h1, h2, h3, h4, h5, h6⟩

/-- Two players and two goalies, one of each a team: after team 1 is formed, player 1
arrives and waits; with `mutex` free, `playersFree` is 1, the one player waiting for a
call. -/
theorem freeAgrees_waiting :
    ∃ s, Reachable ⟨2, 2, 1, 1⟩ s ∧ s.holders ⟨2, 2, 1, 1⟩ = 0 ∧ s.free .player = 1 ∧
      s.unreleased ⟨2, 2, 1, 1⟩ .player = 1 ∧ FreeAgrees ⟨2, 2, 1, 1⟩ s := by
  obtain ⟨s, hs, h0, hf⟩ := run_witness ⟨2, 2, 1, 1⟩ (fun _ _ => .arriving)
    (firstTeam ++ List.replicate 6 (.proc .player 1))
    (p := fun s => s.holders ⟨2, 2, 1, 1⟩ = 0 ∧ s.free .player = 1) (by decide)
  have h := freeAgrees_of_one_goalie (c := ⟨2, 2, 1, 1⟩) le_rfl rfl hs
  exact ⟨s, hs, h0, hf, hf ▸ (h h0).2.2.2.1.symm, h⟩

/-- For two goalies a team the free counters do not agree with the waiting goalies: at the
end of `oneTeamTwoGoalies` a goalie still waits and `goaliesFree` is 0. -/
theorem goalie_free_miscounted : ∃ s, Reachable ⟨1, 2, 1, 2⟩ s ∧ ¬ FreeAgrees ⟨1, 2, 1, 2⟩ s :=
  run_witness _ (fun _ _ => .arriving) oneTeamTwoGoalies (by decide)

end SoccerGame
