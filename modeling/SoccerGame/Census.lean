import SoccerGame.Reach

/-!
Where the admitted processes are, and what the counters count, in every reachable state.

* `Good.admitted_eq`, `Inv.admitted_eq`: an admitted process waits for its call, reads
  `teamId`, holds an id, or forms a team, and only one of these;
* `Inv.holdsCurrent`: the holders of the current `teamId`, with the pending wake-ups and the
  readers, are the forming captain's calls;
* `mutex_exclusive`: `mutex` is 0 or 1, 0 exactly when a process is in a critical region,
  and never two processes are;
* `Inv.quiet`: with no captain forming, no wake-up or registration is pending, no one holds
  the current `teamId`, and `xFree` counts the waiting recruits, short by
  `NUMTEAMGOALIES - 1` goalies per closed team;
* `State.outstanding`, `Inv.outstanding_eq`: while a captain forms, the recruits it has
  released and not yet acknowledged are its calls minus its completed waits;
* `Inv.waitTeam_le`: for `NUMTEAMGOALIES = 1`, `xWaitTeam` never exceeds the waiting
  recruits.
-/

namespace SoccerGame

variable {c : Config} {s : State} {k : Kind} {i : Nat}

/-! ### The admitted processes -/

/-- An admitted process waits, reads, holds an id or forms a team. -/
lemma Good.admitted_eq {p : Proc} (hg : Good c k p) :
    View.admitted p.view =
      View.waiting p.view + View.reading p.view + View.holding p.view + View.forming p.view := by
  obtain ⟨-, -, -, hf⟩ := hg
  obtain ⟨q, r, o, role⟩ := p
  cases q <;> simp only [Fits] at hf <;> cases role <;>
    simp_all [Proc.view, PC.canon, PC.forming, View.admitted, View.waiting, View.reading,
      View.holding, View.forming]

lemma Inv.admitted_eq (hI : Inv c s) (k : Kind) :
    total c s.view k View.admitted =
      total c s.view k View.waiting + total c s.view k View.reading +
        total c s.view k View.holding + total c s.view k View.forming := by
  rw [← total_add, ← total_add, ← total_add]
  exact total_congr fun j hj => (hI.good k j hj).admitted_eq

/-- The holders of the current id, the pending wake-ups and the readers of kind `k` are
the calls of the captain forming the team. -/
lemma Inv.holdsCurrent (hI : Inv c s) (k : Kind) :
    s.waitTeam k + total c s.view k View.reading + total c s.view k (View.holds s.teamId) =
      s.calls c k := by
  have h1 := (hI.ledger.at k).called
  have h2 := (hI.ledger.at k).current
  omega

/-- With no captain forming, there is no one of kind `k` in a captain's step. -/
lemma State.total_forming_eq_zero (h0 : s.forming c = 0) (k : Kind) :
    total c s.view k View.forming = 0 := by
  simp only [State.forming] at h0; cases k <;> omega

/-- A positive count of forming captains has a captain in it. -/
lemma State.exists_forming (h : 0 < s.forming c) :
    ∃ k j, j < c.pool k ∧ (s.proc k j).pc.forming := by
  obtain ⟨k, j, hj, hf⟩ := exists_of_sum_pos h
  refine ⟨k, j, hj, by_contra fun hc => ?_⟩
  simp [State.view, hc] at hf

/-- **The counters at rest.** With no captain forming, no wake-up or registration is
pending, no one reads or holds the current `teamId`, and `xFree` with the quotas of the
closed teams counts the waiting recruits with the shares of the closed teams. -/
lemma Inv.quiet (hI : Inv c s) (h0 : s.forming c = 0) :
    s.playerRegistered = 0 ∧ total c s.view .player View.registering = 0 ∧
      total c s.view .goalie View.registering = 0 ∧
      ∀ k, s.waitTeam k = 0 ∧ total c s.view k View.reading = 0 ∧
        total c s.view k (View.holds s.teamId) = 0 ∧
        s.free k + c.quota k * (s.teamId - 1) =
          total c s.view k View.waiting + c.share k * (s.teamId - 1) := by
  have hL := hI.ledger
  have hz : ∀ k, s.waitTeam k + total c s.view k View.reading +
      total c s.view k (View.holds s.teamId) = 0 := fun k => by
    rw [hI.holdsCurrent, s.calls_eq_zero h0]
  have hR := hL.registered
  have hCp := hL.player.current
  have hCg := hL.goalie.current
  have hzp := hz .player
  have hzg := hz .goalie
  rw [s.acks_eq_zero h0] at hR
  simp only [Config.share, Nat.one_mul] at hCp hCg
  have hNT : (c.numTeamPlayers + 1) * (s.teamId - 1) =
      c.numTeamPlayers * (s.teamId - 1) + (s.teamId - 1) := Nat.succ_mul _ _
  refine ⟨by omega, by omega, by omega, fun k => ⟨by have := hz k; omega,
    by have := hz k; omega, by have := hz k; omega, ?_⟩⟩
  have hF := (hL.at k).free
  have hC := (hL.at k).current
  have hk := hz k
  rw [State.reserved, s.taken_eq_zero h0, hI.admitted_eq, s.total_forming_eq_zero h0] at hF
  omega

/-! ### Mutual exclusion -/

/-- `holders` is positive exactly when some process is in a critical region. -/
lemma State.holders_pos_iff :
    0 < s.holders c ↔ ∃ k j, j < c.pool k ∧ (s.proc k j).pc.inCS := by
  constructor
  · intro h
    obtain ⟨k, j, hj, hcs⟩ := exists_of_sum_pos h
    exact ⟨k, j, hj, by_contra fun hc => by simp [hc] at hcs⟩
  · rintro ⟨k, j, hj, hcs⟩
    have := le_total (v := s.proc) (f := fun p => if p.pc.inCS then 1 else 0) hj
    simp only [hcs, if_true] at this
    simp only [State.holders]
    cases k <;> omega

/-- Two processes in critical regions are two holders. -/
lemma State.two_le_holders {k' : Kind} {j : Nat} (hi : i < c.pool k) (hj : j < c.pool k')
    (hci : (s.proc k i).pc.inCS) (hcj : (s.proc k' j).pc.inCS) (hne : ¬ (k = k' ∧ i = j)) :
    2 ≤ s.holders c := by
  have h1 := le_total (v := s.proc) (f := fun p => if p.pc.inCS then 1 else 0) hi
  have h2 := le_total (v := s.proc) (f := fun p => if p.pc.inCS then 1 else 0) hj
  simp only [hci, hcj, if_true] at h1 h2
  simp only [State.holders]
  by_cases hk : k = k'
  · subst hk
    have := add_le_total (v := s.proc) (f := fun p => if p.pc.inCS then 1 else 0) hi hj
      fun e => hne ⟨rfl, e⟩
    simp only [hci, hcj, if_true] at this
    cases k <;> omega
  · cases k <;> cases k' <;> first | exact absurd rfl hk | omega

/-- **`mutex` guards the critical regions**: in every reachable state it is 0 or 1, it is 0
exactly when some process is inside a critical region, and no two processes are inside
critical regions at once. A forming captain stays inside from its decision to its
`semUp(mutex)`, its waits on `playerRegistered` included. -/
theorem mutex_exclusive (hN : 1 ≤ c.numTeamPlayers) (hG : 1 ≤ c.numTeamGoalies)
    (h : Reachable c s) :
    s.mutex ≤ 1 ∧ (s.mutex = 0 ↔ ∃ k j, j < c.pool k ∧ (s.proc k j).pc.inCS) ∧
      ∀ k k' i j, i < c.pool k → j < c.pool k' → (s.proc k i).pc.inCS →
        (s.proc k' j).pc.inCS → k = k' ∧ i = j := by
  have hm := (h.inv hN hG).mutex
  refine ⟨by omega, by rw [← State.holders_pos_iff]; omega, fun k k' i j hi hj hci hcj => ?_⟩
  by_contra hne
  have := State.two_le_holders hi hj hci hcj hne
  omega

/-- One step of player 0 takes it into the critical region of `arrive`: `mutex` is 0. -/
theorem mutex_exclusive_arrive :
    ∃ s, Reachable ⟨1, 1, 1, 1⟩ s ∧ (s.proc .player 0).pc.inCS ∧ s.mutex = 0 := by
  obtain ⟨s, hs, hcs⟩ := run_witness ⟨1, 1, 1, 1⟩ (fun _ _ => .arriving) [.proc .player 0]
    (p := fun s => (s.proc .player 0).pc.inCS) (by decide)
  exact ⟨s, hs, hcs, (mutex_exclusive (c := ⟨1, 1, 1, 1⟩) le_rfl le_rfl hs).2.1.mpr
    ⟨.player, 0, by decide, hcs⟩⟩

/-! ### The handshake -/

/-- Modelled from the spec: the recruits released by a `semUp(xWaitTeam)` and not yet
acknowledged by the captain's `semDown(playerRegistered)`: the pending wake-ups, the
recruits between their wait and their `semUp(playerRegistered)`, and the pending
registrations. -/
def State.outstanding (c : Config) (s : State) : Nat :=
  s.waitTeam .player + s.waitTeam .goalie + total c s.view .player View.reading +
    total c s.view .goalie View.reading + total c s.view .player View.registering +
    total c s.view .goalie View.registering + s.playerRegistered

/-- **The outstanding recruits** of a forming captain are its calls less its completed
waits. -/
lemma Inv.outstanding_eq (hI : Inv c s) (hi : i < c.pool k) (hf : (s.proc k i).pc.forming) :
    s.outstanding c + c.acked k (s.proc k i).pc =
      c.called k (s.proc k i).pc .player + c.called k (s.proc k i).pc .goalie := by
  have hR := hI.ledger.registered
  have hCp := hI.ledger.player.current
  have hCg := hI.ledger.goalie.current
  have hp := hI.holdsCurrent .player
  have hg := hI.holdsCurrent .goalie
  rw [hI.acks_eq hi hf] at hR
  rw [hI.calls_eq hi hf] at hp hg
  simp only [Config.share, Nat.one_mul] at hCp hCg
  have hNT : (c.numTeamPlayers + 1) * (s.teamId - 1) =
      c.numTeamPlayers * (s.teamId - 1) + (s.teamId - 1) := Nat.succ_mul _ _
  simp only [State.outstanding]
  omega

/-- A captain's calls of kind `k'`, with itself, fit in a team. -/
lemma Fits.called_le (hN : 1 ≤ c.numTeamPlayers) {p : Proc} (hfit : Fits c k p)
    (hf : p.pc.forming) (k' : Kind) :
    c.called k p.pc k' + (if k' = k then 1 else 0) ≤ c.share k' := by
  obtain ⟨q, r, o, role⟩ := p
  cases q <;> simp only [Fits] at hfit <;> simp only [PC.forming] at hf <;>
    cases k <;> cases k' <;> simp_all [Config.called, Config.share] <;> omega

/-- **Wake-ups never exceed the waiting recruits** when a team takes one goalie and
`NUMTEAMGOALIES = 1`: the forming captain found its quota free, and its calls do not
exceed it. -/
lemma Inv.waitTeam_le (hN : 1 ≤ c.numTeamPlayers) (hG : c.numTeamGoalies = 1) (hI : Inv c s)
    (k : Kind) : s.waitTeam k ≤ total c s.view k View.waiting := by
  have hq : c.quota k = c.share k := by cases k <;> simp [Config.share, hG]
  have hF := (hI.ledger.at k).free
  have hC := (hI.ledger.at k).current
  have hH := hI.holdsCurrent k
  rw [hI.admitted_eq, hq] at hF
  rcases Nat.eq_zero_or_pos (s.forming c) with h0 | h1
  · rw [s.calls_eq_zero h0] at hH
    omega
  · obtain ⟨kc, j, hj, hf⟩ := s.exists_forming h1
    have hle := (hI.good kc j hj).2.2.2.called_le hN hf k
    have hb := (hI.ledger.busy (le_antisymm hI.forming_le h1)).2
    have hb1 := (hI.ledger.busy (le_antisymm hI.forming_le h1)).1
    have hfk : total c s.view k View.forming = if k = kc then 1 else 0 := by
      rw [hI.total_captain hj hf (fun v h => by simp [View.forming, h]) k]
      simp [State.view, View.forming_view, hf]
    rw [hI.calls_eq hj hf] at hH
    have hres : c.quota k ≤ s.reserved c k := by cases k <;> simp only [Config.quota_player,
      Config.quota_goalie] <;> omega
    rw [hq] at hres
    omega

end SoccerGame
