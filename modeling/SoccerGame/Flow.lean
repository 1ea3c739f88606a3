import SoccerGame.Move

/-!
The moves within a branch: the captains' loops of calls and registration waits, and a
recruit's wait on `xWaitTeam` and its `semUp(playerRegistered)`.

* `Inv.move`, `Inv.captain_move`: such a move keeps the invariant when the counters it
  changes match the calls, completed waits and taken quotas it makes;
* `Inv.step_callPlayer` … `Inv.step_signalReferee`: each step of the kind.
-/

namespace SoccerGame

variable {c : Config} {s s₀ s' : State} {k : Kind} {i j : Nat}

lemma State.one_le_forming (s : State) (hi : i < c.pool k) (hf : (s.proc k i).pc.forming) :
    1 ≤ s.forming c := by
  have := le_total (v := s.view) (f := View.forming) hi
  simp only [State.forming]
  cases k <;> simp [State.view, hf] at this <;> omega

/-- **Moves within a branch** keep the invariant: process `i` of kind `k` goes from the
view `v` to the view `v'` at `q`, over a state `s₀` whose counters match the calls,
completed waits and taken quotas of the move. -/
lemma Inv.move (hI : Inv c s) (hi : i < c.pool k) {q : PC} (v v' : View)
    (hv : (s.proc k i).view = v) (hv' : ({ s.proc k i with pc := q } : Proc).view = v')
    (h₀ : s₀.proc = s.proc) (ha : s₀.arrived = s.arrived) (ht : s₀.teamId = s.teamId)
    (hst : s₀.stat = s.stat) (hh : s₀.hist = s.hist) (hm : s₀.mutex = s.mutex)
    (hcs : q.inCS = (s.proc k i).pc.inCS)
    (hcalled : ∀ k', s₀.waitTeam k' + (if k' = k then View.reading v' else 0) +
        c.called k v.phase k' =
      s.waitTeam k' + (if k' = k then View.reading v else 0) + c.called k v'.phase k')
    (hfree : ∀ k', s₀.free k' + c.quota k' * took k v'.phase k' =
      s.free k' + c.quota k' * took k v.phase k')
    (hreg : s₀.playerRegistered + c.acked k v'.phase + View.registering v' =
      s.playerRegistered + c.acked k v.phase + View.registering v)
    (href : s₀.refereeWaitTeams + View.signaling v' = s.refereeWaitTeams + View.signaling v)
    (hform : q.forming = (s.proc k i).pc.forming) (hidle : s.forming c = 0 → s₀.free = s.free)
    (hfits : Fits c k { s.proc k i with pc := q })
    (hwr : Proc.written { s.proc k i with pc := q } = (s.proc k i).written) :
    Inv c (s₀.goto k i q) := by
  have hs : s₀.goto k i q = s₀.setProc k i { s.proc k i with pc := q } := by
    rw [State.goto, h₀]
  refine hI.of_step hi hs h₀ (fun k => ha ▸ le_rfl)
    (fun k' j _ => by rw [hst, hh]; exact ⟨rfl, rfl⟩) (by rw [hm, hcs])
    ((hI.good k i hi).goto hfits) (by rw [hst, hh]; exact (hI.recorded k i hi).goto hwr)
    ⟨ha ▸ hI.rank_le k i hi, .inl rfl⟩ ?_
  rw [hs]
  have hv₁ : s.view k i = v := hv
  subst hv' hv₁
  exact hI.ledger.move hi h₀ ha ht rfl rfl hcalled hfree hreg href hform hidle

/-- A captain has written its branch and no more. -/
lemma Proc.written_of_forming {p : Proc} (hf : p.pc.forming) :
    p.written = [.arriving, p.role.stat] := by
  obtain ⟨q, _, _, _⟩ := p
  cases q <;> simp_all [PC.forming, Proc.written]

/-- A captain's steps before `ret = teamId++` are in the critical region, and are no
recruit's and no signal to the referee. -/
lemma PC.of_forming {q : PC} (hf : q.forming) (r : Nat) (o : Role) :
    q.inCS ∧ View.reading ⟨q, r, o⟩ = 0 ∧ View.registering ⟨q, r, o⟩ = 0 ∧
      View.signaling ⟨q, r, o⟩ = 0 := by
  cases q <;> simp_all [PC.forming, PC.inCS, View.reading, View.registering, View.signaling]

/-- **A captain's moves** keep the invariant: the captain goes from `q₀` to `q`, over a state
`s₀` whose semaphores and free counters match the calls, completed waits and taken quotas
of the move. -/
lemma Inv.captain_move (hI : Inv c s) (hi : i < c.pool k) {q₀ q : PC}
    (hpc : (s.proc k i).pc = q₀) (hq₀ : q₀.forming) (hq : q.forming)
    (h₀ : s₀.proc = s.proc) (ha : s₀.arrived = s.arrived) (ht : s₀.teamId = s.teamId)
    (hst : s₀.stat = s.stat) (hh : s₀.hist = s.hist) (hm : s₀.mutex = s.mutex)
    (hrw : s₀.refereeWaitTeams = s.refereeWaitTeams)
    (hcalled : ∀ k', s₀.waitTeam k' + c.called k q₀ k' = s.waitTeam k' + c.called k q k')
    (hfree : ∀ k', s₀.free k' + c.quota k' * took k q k' = s.free k' + c.quota k' * took k q₀ k')
    (hreg : s₀.playerRegistered + c.acked k q = s.playerRegistered + c.acked k q₀)
    (hfits : Fits c k { s.proc k i with pc := q }) : Inv c (s₀.goto k i q) := by
  have hv : (s.proc k i).view = ⟨q₀, (s.proc k i).ret, (s.proc k i).role⟩ := by
    rw [Proc.view_of_forming (hpc ▸ hq₀), hpc]
  obtain ⟨hc₀, hr₀, hg₀, hs₀⟩ := PC.of_forming hq₀ (s.proc k i).ret (s.proc k i).role
  obtain ⟨hc, hr, hg, hs⟩ := PC.of_forming hq (s.proc k i).ret (s.proc k i).role
  refine hI.move hi _ _ hv (Proc.view_of_forming hq) h₀ ha ht hst hh hm (by rw [hpc, hc, hc₀])
    (fun k' => by simp only [hr, hr₀, ite_self, Nat.add_zero]; exact hcalled k') hfree
    (by simp only [hg, hg₀, Nat.add_zero]; exact hreg) (by rw [hs, hs₀, hrw])
    (by rw [hpc, hq, hq₀])
    (fun h0 => absurd h0 (by have := s.one_le_forming hi (hpc ▸ hq₀); omega)) hfits ?_
  rw [Proc.written_of_forming hq, Proc.written_of_forming (hpc ▸ hq₀)]

lemma Config.callFrom_cases (c : Config) (j : Nat) :
    c.callFrom j = .callPlayer j ∧ j < c.numTeamPlayers - 1 ∨
      c.callFrom j = .callGoalie ∧ c.numTeamPlayers - 1 ≤ j := by
  unfold Config.callFrom; split <;> simp_all

lemma Config.collectFrom_cases (c : Config) (j : Nat) :
    c.collectFrom j = .collectPlayer j ∧ j < c.numTeamPlayers ∨
      c.collectFrom j = .closeTeam ∧ c.numTeamPlayers ≤ j := by
  unfold Config.collectFrom; split <;> simp_all

lemma Config.releaseFrom_cases (c : Config) (j : Nat) :
    c.releaseFrom j = .releasePlayer j ∧ j < c.numTeamPlayers ∨
      c.releaseFrom j = c.collectFrom 0 ∧ c.numTeamPlayers ≤ j := by
  unfold Config.releaseFrom; split <;> simp_all

/-- The player captain's call of a player (line 199). -/
lemma Inv.step_callPlayer (hI : Inv c s) (hi : i < c.pool k)
    (hpc : (s.proc k i).pc = .callPlayer j) (h : step c s k i = some s') : Inv c s' := by
  have hg := (hI.good k i hi).2.2.2
  simp only [Fits, hpc] at hg
  obtain ⟨rfl, hrole, hret, hj⟩ := hg
  simp only [step, hpc, Option.some.injEq] at h
  subst h
  exact hI.captain_move hi hpc rfl rfl rfl rfl rfl rfl rfl rfl rfl
    (fun k' => by cases k' <;> simp [State.callTeam, Config.called]; omega)
    (fun k' => by cases k' <;> rfl) rfl (by simp [Fits, hrole, hret, hj])

/-- The player captain's wait for a player's registration (line 205); the loop goes on
or ends. -/
lemma Inv.step_awaitPlayer (hI : Inv c s) (hi : i < c.pool k)
    (hpc : (s.proc k i).pc = .awaitPlayer j) (h : step c s k i = some s') : Inv c s' := by
  have hg := (hI.good k i hi).2.2.2
  simp only [Fits, hpc] at hg
  obtain ⟨rfl, hrole, hret, hj⟩ := hg
  simp only [step, hpc, Option.ite_none_right_eq_some, Option.some.injEq] at h
  obtain ⟨hr, rfl⟩ := h
  rcases c.callFrom_cases (j + 1) with ⟨hq, hlt⟩ | ⟨hq, hge⟩ <;> rw [hq]
  · exact hI.captain_move hi hpc rfl rfl rfl rfl rfl rfl rfl rfl rfl
      (fun k' => by cases k' <;> simp [Config.called]) (fun k' => by cases k' <;> rfl)
      (by simp [Config.acked]; omega) (by simp [Fits, hrole, hret]; omega)
  · exact hI.captain_move hi hpc rfl rfl rfl rfl rfl rfl rfl rfl rfl
      (fun k' => by cases k' <;> simp [Config.called]; omega) (fun k' => by cases k' <;> rfl)
      (by simp [Config.acked]; omega) (by simp [Fits, hrole, hret])

/-- The player captain's call of its goalie (lines 211-214), after `playersFree -=
NUMTEAMPLAYERS`: the players it takes were free when it decided. -/
lemma Inv.step_callGoalie (hI : Inv c s) (hi : i < c.pool k)
    (hpc : (s.proc k i).pc = .callGoalie) (h : step c s k i = some s') : Inv c s' := by
  have hg := (hI.good k i hi).2.2.2
  simp only [Fits, hpc] at hg
  obtain ⟨rfl, hrole, hret⟩ := hg
  simp only [step, hpc, Option.some.injEq] at h
  subst h
  have hf : (s.proc .player i).pc.forming := by simp [hpc, PC.forming]
  have hres := (hI.ledger.busy (le_antisymm hI.forming_le (s.one_le_forming hi hf))).1
  simp only [State.reserved, hI.taken_eq hi hf, hpc, took, Config.quota_player,
    Nat.mul_zero, Nat.add_zero] at hres
  exact hI.captain_move hi hpc rfl rfl rfl rfl rfl rfl rfl rfl rfl
    (fun k' => by cases k' <;> simp [State.callTeam, State.takeFree, Config.called])
    (fun k' => by cases k' <;> simp [State.callTeam, State.takeFree, took]; omega) rfl
    (by simp [Fits, hrole, hret])

/-- The player captain's wait for its goalie's registration (line 220). -/
lemma Inv.step_awaitGoalie (hN : 1 ≤ c.numTeamPlayers) (hI : Inv c s) (hi : i < c.pool k)
    (hpc : (s.proc k i).pc = .awaitGoalie) (h : step c s k i = some s') : Inv c s' := by
  have hg := (hI.good k i hi).2.2.2
  simp only [Fits, hpc] at hg
  obtain ⟨rfl, hrole, hret⟩ := hg
  simp only [step, hpc, Option.ite_none_right_eq_some, Option.some.injEq] at h
  obtain ⟨hr, rfl⟩ := h
  exact hI.captain_move hi hpc rfl rfl rfl rfl rfl rfl rfl rfl rfl
    (fun k' => by cases k' <;> rfl) (fun k' => by cases k' <;> rfl) (by simp [Config.acked]; omega)
    (by simp [Fits, hrole, hret])

/-- The goalie captain's release of a player (line 195); the loop goes on or ends. -/
lemma Inv.step_releasePlayer (hI : Inv c s) (hi : i < c.pool k)
    (hpc : (s.proc k i).pc = .releasePlayer j) (h : step c s k i = some s') : Inv c s' := by
  have hg := (hI.good k i hi).2.2.2
  simp only [Fits, hpc] at hg
  obtain ⟨rfl, hrole, hret, hj⟩ := hg
  simp only [step, hpc, Option.some.injEq] at h
  subst h
  rcases c.releaseFrom_cases (j + 1) with ⟨hq, hlt⟩ | ⟨hq, hge⟩ <;> rw [hq]
  · exact hI.captain_move hi hpc rfl rfl rfl rfl rfl rfl rfl rfl rfl
      (fun k' => by cases k' <;> simp [State.callTeam, Config.called]; omega) (fun k' => by cases k' <;> rfl)
      rfl (by simp [Fits, hrole, hret, hlt])
  · rcases c.collectFrom_cases 0 with ⟨hq', -⟩ | ⟨-, h0⟩
    · rw [hq']
      exact hI.captain_move hi hpc rfl rfl rfl rfl rfl rfl rfl rfl rfl
        (fun k' => by cases k' <;> simp [State.callTeam, Config.called]; omega) (fun k' => by cases k' <;> rfl)
        rfl (by simp [Fits, hrole, hret]; omega)
    · omega

/-- The goalie captain's wait for a player's registration (line 203); the loop goes on
or ends. -/
lemma Inv.step_collectPlayer (hI : Inv c s) (hi : i < c.pool k)
    (hpc : (s.proc k i).pc = .collectPlayer j) (h : step c s k i = some s') : Inv c s' := by
  have hg := (hI.good k i hi).2.2.2
  simp only [Fits, hpc] at hg
  obtain ⟨rfl, hrole, hret, hj⟩ := hg
  simp only [step, hpc, Option.ite_none_right_eq_some, Option.some.injEq] at h
  obtain ⟨hr, rfl⟩ := h
  rcases c.collectFrom_cases (j + 1) with ⟨hq, hlt⟩ | ⟨hq, hge⟩ <;> rw [hq]
  · exact hI.captain_move hi hpc rfl rfl rfl rfl rfl rfl rfl rfl rfl
      (fun k' => by cases k' <;> rfl) (fun k' => by cases k' <;> rfl) (by simp [Config.acked]; omega)
      (by simp [Fits, hrole, hret, hlt])
  · exact hI.captain_move hi hpc rfl rfl rfl rfl rfl rfl rfl rfl rfl
      (fun k' => by cases k' <;> rfl) (fun k' => by cases k' <;> rfl) (by simp [Config.acked]; omega)
      (by simp [Fits, hrole, hret])

/-- A recruit's wait on `xWaitTeam` (player line 252, goalie line 243). -/
lemma Inv.step_waitTeam (hI : Inv c s) (hi : i < c.pool k)
    (hpc : (s.proc k i).pc = .waitTeam) (h : step c s k i = some s') : Inv c s' := by
  have hg := (hI.good k i hi).2.2.2
  simp only [Fits, hpc] at hg
  obtain ⟨hrole, hret⟩ := hg
  simp only [step, hpc, Option.ite_none_right_eq_some, Option.some.injEq] at h
  obtain ⟨hw, rfl⟩ := h
  exact hI.move hi ⟨.waitTeam, 0, .recruit⟩ ⟨.readTeamId, 0, .recruit⟩
    (by simp [Proc.view, PC.canon, hpc, hrole, hret]) (by simp [Proc.view, PC.canon, hrole, hret])
    rfl rfl rfl rfl rfl rfl (by simp [PC.inCS, hpc])
    (fun k' => by
      by_cases hk : k' = k
      · subst hk; simp [View.reading, Config.called]; omega
      · simp [hk, Config.called])
    (fun k' => by cases k <;> cases k' <;> rfl) (by cases k <;> rfl) rfl (by simp [PC.forming, hpc])
    (fun _ => rfl) (by simp [Fits, hrole, hret])
    (by simp [Proc.written, hpc])

/-- A recruit's `semUp(playerRegistered)` (player line 260, goalie line 251). -/
lemma Inv.step_register (hI : Inv c s) (hi : i < c.pool k)
    (hpc : (s.proc k i).pc = .register) (h : step c s k i = some s') : Inv c s' := by
  have hg := (hI.good k i hi).2.2.2
  simp only [Fits, hpc] at hg
  obtain ⟨hrole, hret⟩ := hg
  simp only [step, hpc, Option.some.injEq] at h
  subst h
  exact hI.move hi ⟨.register, (s.proc k i).ret, .recruit⟩ ⟨.finished, (s.proc k i).ret, .recruit⟩
    (by simp [Proc.view, PC.canon, hpc, hrole]) (by simp [Proc.view, PC.canon, hrole])
    rfl rfl rfl rfl rfl rfl (by simp [PC.inCS, hpc])
    (fun k' => by cases k <;> cases k' <;> simp [View.reading, Config.called])
    (fun k' => by cases k <;> cases k' <;> rfl)
    (by cases k <;> simp [Config.acked, View.registering]) rfl (by simp [PC.forming, hpc])
    (fun _ => rfl)
    (by simp [Fits, hrole, hret]) (by simp [Proc.written, hpc])

/-- A captain's `semUp(refereeWaitTeams)` (player line 269, goalie line 233). -/
lemma Inv.step_signalReferee (hI : Inv c s) (hi : i < c.pool k)
    (hpc : (s.proc k i).pc = .signalReferee) (h : step c s k i = some s') : Inv c s' := by
  have hg := (hI.good k i hi).2.2.2
  simp only [Fits, hpc] at hg
  obtain ⟨hrole, hret⟩ := hg
  simp only [step, hpc, Option.some.injEq] at h
  subst h
  exact hI.move hi ⟨.signalReferee, (s.proc k i).ret, .captain⟩
    ⟨.finished, (s.proc k i).ret, .captain⟩
    (by simp [Proc.view, PC.canon, hpc, hrole]) (by simp [Proc.view, PC.canon, hrole])
    rfl rfl rfl rfl rfl rfl (by simp [PC.inCS, hpc]) (fun k' => by cases k <;> cases k' <;> rfl)
    (fun k' => by cases k <;> cases k' <;> rfl) (by cases k <;> rfl) rfl (by simp [PC.forming, hpc])
    (fun _ => rfl) (by simp [Fits, hrole, hret]) (by simp [Proc.written, hpc])

end SoccerGame
