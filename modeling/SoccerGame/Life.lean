import SoccerGame.Formation

/-!
The whole life cycle of `main`: `arrive`, `xConstituteTeam` and, for a process with a team,
`waitReferee` and `playUntilEnd`, with the referee as the environment that raises
`playersWaitReferee` and `playersWaitEnd`; for `NUMTEAMGOALIES = 1`,
`NUMPLAYERS ≥ 2 * NUMTEAMPLAYERS` and `NUMGOALIES ≥ 2`.

* `PC.rest`, `lifeMeasure`: an upper bound on the steps a process, and all processes, have
  left before the end of `main`; `lifeMeasure_lt`: every process step shortens it, and the
  referee's raises leave it as it is; `procStep_wellFounded`: so no schedule of the
  processes alone runs forever;
* `State.resting_of_stuck`: a state where no process can move is resting, so
  `Inv.resting_cases` applies to it;
* `Reachable.progress`: from a reachable state where some process has not finished, a step
  of a process, or a raise of the referee and then one, shortens `lifeMeasure`;
* `life_cycle_finishes`: the only waits that can last are on the referee, and from every
  reachable state some schedule brings every process to the end of `main`;
* `Proc.played`, `Reachable.playing_eq`: `playing` counts the processes past their
  `semUp(playing)`;
* `life_cycle_end`: when every process has finished, both teams were formed and played,
  and only their members.
-/

namespace SoccerGame

variable {c : Config} {s s' : State} {k : Kind} {i : Nat}

/-! ### What is left of the life cycle -/

/-- An upper bound on the steps a process at `q` takes until the end of `main`: what is left
of `xConstituteTeam`, then `waitReferee` and `playUntilEnd`. -/
def PC.rest (c : Config) : PC → Nat
  | .returned => 7
  | .waitReferee => 6
  | .waitRefereeCS => 5
  | .awaitStart => 4
  | .playUntilEnd => 3
  | .playCS => 2
  | .awaitEnd => 1
  | .finished => 0
  | q => q.left c + 7

lemma PC.rest_of_beforeReturn {q : PC} (hq : q.beforeReturn) : q.rest c = q.left c + 7 := by
  cases q <;> simp_all [PC.beforeReturn, PC.rest]

/-- Every step shortens what is left. -/
lemma PC.rest_lt {q q' : PC} (h : q' ∈ q.succs c) : q'.rest c < q.rest c := by
  cases hq : q.beforeReturn
  · -- after the return: `waitReferee`, `playUntilEnd`, in order
    cases q <;> simp only [PC.beforeReturn, reduceCtorEq] at hq <;>
      simp only [PC.succs, List.mem_cons, List.mem_singleton, List.not_mem_nil, or_false] at h <;>
      rcases h with rfl | rfl <;> simp [PC.rest]
  · have hl := PC.left_lt hq h
    rw [PC.rest_of_beforeReturn hq]
    rcases PC.succs_settled hq h with h' | rfl
    · rw [PC.rest_of_beforeReturn h']; omega
    · simp only [PC.rest]; omega

/-- What is left of the life cycle: the sum over all processes. -/
def lifeMeasure (c : Config) (s : State) : Nat :=
  total c s.proc .player (fun p => p.pc.rest c) + total c s.proc .goalie (fun p => p.pc.rest c)

/-- Every process step shortens what is left of the life cycle. -/
lemma lifeMeasure_lt (h : step c s k i = some s') (hi : i < c.pool k) :
    lifeMeasure c s' < lifeMeasure c s :=
  sum_lt_of_step h hi (PC.rest_lt (step_inv h).1)

lemma Reachable.trans (h : Reachable c s) (hs : Relation.ReflTransGen (Step c) s s') :
    Reachable c s' :=
  let ⟨stat₀, h⟩ := h
  ⟨stat₀, h.trans hs⟩

/-- A state where no process can move is resting. -/
lemma State.resting_of_stuck (hs : ∀ k j, j < c.pool k → step c s k j = none) : s.resting c :=
  fun k j hj => .inr (step_eq_none_iff.mp (hs k j hj))

/-- A process that can move takes a step of the whole system that shortens what is left. -/
lemma progress_of_step (hj : i < c.pool k) (h : step c s k i = some s') :
    Relation.ReflTransGen (Step c) s s' ∧ lifeMeasure c s' < lifeMeasure c s :=
  ⟨.single ⟨.proc k i, by simp only [act, hj, if_true, h]⟩, lifeMeasure_lt h hj⟩

/-- A raise of the referee that lets a process pass its gate, then that process's step,
shortens what is left. -/
lemma progress_of_raise {a : Act} {s₁ : State} (hj : i < c.pool k) (ha : act c s a = some s₁)
    (hm : lifeMeasure c s₁ = lifeMeasure c s) (hb : ¬ s₁.blocked k (s₁.proc k i).pc) :
    ∃ s', Relation.ReflTransGen (Step c) s s' ∧ lifeMeasure c s' < lifeMeasure c s := by
  obtain ⟨s', hs'⟩ := Option.ne_none_iff_exists'.mp (step_eq_none_iff.not.mpr hb)
  obtain ⟨hr, hlt⟩ := progress_of_step hj hs'
  exact ⟨s', .head ⟨a, ha⟩ hr, hm ▸ hlt⟩

section Complete

variable (hN : 1 ≤ c.numTeamPlayers) (hG : c.numTeamGoalies = 1)
  (hP : 2 * c.numTeamPlayers ≤ c.numPlayers) (hGo : 2 ≤ c.numGoalies)
include hN hG hP hGo

/-- **The only lasting waits are on the referee**: in a reachable state where no process
can move, every process waits at `semDown(playersWaitReferee)` or
`semDown(playersWaitEnd)`, or has finished. A returned process can always move. -/
lemma Reachable.stuck_cases (h : Reachable c s)
    (hs : ∀ k j, j < c.pool k → SoccerGame.step c s k j = none) :
    ∀ k j, j < c.pool k → (s.proc k j).pc = .awaitStart ∨ (s.proc k j).pc = .awaitEnd ∨
      (s.proc k j).pc = .finished := fun k j hj => by
  rcases (h.inv hN (by omega)).resting_cases hN hG hP hGo (State.resting_of_stuck hs) k j hj
    with hr | hr
  · exact absurd (hs k j hj) (by simp [SoccerGame.step, hr])
  · exact hr

/-- **Progress**: from a reachable state where some process has not finished, a step of a
process, or a raise of the referee's gate that a process waits on and then its step,
shortens what is left of the life cycle. -/
lemma Reachable.progress (h : Reachable c s)
    (hd : ∃ k j, j < c.pool k ∧ (s.proc k j).pc ≠ .finished) :
    ∃ s', Relation.ReflTransGen (Step c) s s' ∧ lifeMeasure c s' < lifeMeasure c s := by
  by_cases hs : ∃ k j, j < c.pool k ∧ SoccerGame.step c s k j ≠ none
  · obtain ⟨k, j, hj, hst⟩ := hs
    obtain ⟨s', hs'⟩ := Option.ne_none_iff_exists'.mp hst
    exact ⟨s', progress_of_step hj hs'⟩
  push_neg at hs
  obtain ⟨k, j, hj, hne⟩ := hd
  rcases h.stuck_cases hN hG hP hGo hs k j hj with hr | hr | hr
  · -- the referee raises `playersWaitReferee`, and the process passes its gate
    exact progress_of_raise hj (a := .startMatch) rfl rfl (by simp [State.blocked, hr])
  · -- the referee raises `playersWaitEnd`, and the process passes its gate
    exact progress_of_raise hj (a := .endMatch) rfl rfl (by simp [State.blocked, hr])
  · exact absurd hr hne

/-- From every reachable state some schedule brings every process to the end of `main`:
by induction on what is left of the life cycle. -/
lemma Reachable.finishes (h : Reachable c s) :
    ∃ s', Relation.ReflTransGen (Step c) s s' ∧
      ∀ k j, j < c.pool k → (s'.proc k j).pc = .finished := by
  generalize hm : lifeMeasure c s = n
  induction n using Nat.strong_induction_on generalizing s with
  | _ n ih =>
    by_cases hd : ∀ k j, j < c.pool k → (s.proc k j).pc = .finished
    · exact ⟨s, .refl, hd⟩
    push_neg at hd
    obtain ⟨s₁, hs₁, hlt⟩ := h.progress hN hG hP hGo hd
    obtain ⟨s', hs', hd'⟩ := ih _ (hm ▸ hlt) (h.trans hs₁) rfl
    exact ⟨s', hs₁.trans hs', hd'⟩

/-- **The whole life cycle never deadlocks and can always finish.** In a reachable state
where no process can move, every process waits on one of the referee's gates or has
finished; and from every reachable state some schedule of the processes, with the referee
raising `playersWaitReferee` and `playersWaitEnd` when a process waits on them, brings every
player and every goalie to the end of `main`. -/
theorem life_cycle_finishes :
    (∀ s, Reachable c s → (∀ k j, j < c.pool k → step c s k j = none) →
      ∀ k j, j < c.pool k → (s.proc k j).pc = .awaitStart ∨ (s.proc k j).pc = .awaitEnd ∨
        (s.proc k j).pc = .finished) ∧
    ∀ s, Reachable c s → ∃ s', Relation.ReflTransGen (Step c) s s' ∧
      ∀ k j, j < c.pool k → (s'.proc k j).pc = .finished :=
  ⟨fun _ h hs => h.stuck_cases hN hG hP hGo hs, fun _ h => h.finishes hN hG hP hGo⟩

end Complete

/-- Two players and two goalies, one of each to a team: from the start a schedule, with the
referee, brings all four to the end of `main`. -/
theorem life_cycle_finishes_start :
    ∃ s', Relation.ReflTransGen (Step ⟨2, 2, 1, 1⟩) (init fun _ _ => .arriving) s' ∧
      ∀ k j, j < Config.pool ⟨2, 2, 1, 1⟩ k → (s'.proc k j).pc = .finished :=
  (life_cycle_finishes (c := ⟨2, 2, 1, 1⟩) le_rfl rfl le_rfl le_rfl).2 _ ⟨_, .refl⟩

/-! ### The end of the program -/

/-- The process has passed its `semUp(playing)`: it waits for the end of the match, or has
finished after it. -/
def Proc.played (p : Proc) : Nat :=
  if p.pc = .awaitEnd ∨ (p.pc = .finished ∧ p.ret ≠ 0) then 1 else 0

lemma constitute_playing : (constitute c s k i).playing = s.playing := by
  simp only [constitute]; split_ifs <;> (try cases k) <;> rfl

/-- A step raises `playing` exactly when it is the process's `semUp(playing)` in
`playUntilEnd`, and then the process has played; no other step changes either. -/
lemma step_playing (hf : Fits c k (s.proc k i)) (h : step c s k i = some s') :
    s'.playing + (s.proc k i).played = s.playing + (s'.proc k i).played := by
  cases hpc : (s.proc k i).pc
  case constituteCS =>
    simp only [step, hpc, Option.some.injEq] at h
    subst h
    have hq := (constitute_inv c s k i).1
    simp only [PC.succs, List.mem_cons, List.mem_singleton, List.not_mem_nil, or_false,
      Config.callFrom, Config.releaseFrom, Config.collectFrom] at hq
    simp only [Proc.played, hpc, constitute_playing]
    split_ifs at hq <;> rcases hq with hq | hq | hq <;> simp [hq]
  all_goals
    simp only [step, hpc] at h
    (try split at h) <;> (try split at h) <;> simp only [Option.some.injEq, reduceCtorEq] at h <;>
      subst h
  all_goals simp only [Fits, hpc] at hf
  all_goals simp_all [Proc.played, State.goto, State.takeFree, State.callTeam, Config.callFrom,
    Config.releaseFrom, Config.collectFrom, ite_eq_iff]

/-- **`playing` counts the processes that have played**: in every reachable state it is the
number of processes past their `semUp(playing)`; the referee never raises it. -/
lemma Reachable.playing_eq (hN : 1 ≤ c.numTeamPlayers) (hG : 1 ≤ c.numTeamGoalies)
    (h : Reachable c s) :
    s.playing = total c s.proc .player Proc.played + total c s.proc .goalie Proc.played := by
  obtain ⟨stat₀, h⟩ := h
  induction h with
  | refl => simp [init, total, Proc.played, Proc.start, sumBelow_const]
  | tail hr hs ih =>
      obtain ⟨a, ha⟩ := hs
      cases a with
      | proc k i =>
          simp only [act] at ha
          split at ha
          · next hi =>
            have e₁ := step_playing ((Reachable.inv hN hG ⟨stat₀, hr⟩).good k i hi).2.2.2 ha
            have e₂ := sum_step Proc.played ha hi
            omega
          · cases ha
      | startMatch => cases ha; exact ih
      | endMatch => cases ha; exact ih

section End

variable (hN : 1 ≤ c.numTeamPlayers) (hG : c.numTeamGoalies = 1)
  (hP : 2 * c.numTeamPlayers ≤ c.numPlayers) (hGo : 2 ≤ c.numGoalies)
include hN hG hP hGo

/-- **Both teams played, and no one else.** In a reachable state where every process has
finished, `teamId` is 3, both free counters, both `xWaitTeam` and `playerRegistered` are
0, `refereeWaitTeams` was raised twice, `playing` was raised `2 * (NUMTEAMPLAYERS + 1)`
times, once by each member of the two teams, and a process holds a team id exactly when it
was among the first `2 * quota` of its kind to enter `xConstituteTeam`. -/
theorem life_cycle_end (h : Reachable c s)
    (hall : ∀ k j, j < c.pool k → (s.proc k j).pc = .finished) :
    s.teamId = 3 ∧ s.free .player = 0 ∧ s.free .goalie = 0 ∧ s.waitTeam .player = 0 ∧
      s.waitTeam .goalie = 0 ∧ s.playerRegistered = 0 ∧ s.refereeWaitTeams = 2 ∧
      s.playing = 2 * (c.numTeamPlayers + 1) ∧
      ∀ k j, j < c.pool k → ((s.proc k j).ret ≠ 0 ↔ (s.proc k j).order ≤ 2 * c.quota k) := by
  have hI := h.inv hN (by omega)
  obtain ⟨h1, h2, h3, h4, h5, h6, h7, hH⟩ := hI.terminal hN hG hP hGo fun k j hj => by
    simp [State.view, Proc.view, hall k j hj, PC.canon]
  -- a finished process has played exactly when it holds a team id
  have hpl : ∀ k, total c s.proc k Proc.played = total c s.view k View.holding := fun k =>
    total_congr fun j hj => by
      by_cases h0 : (s.proc k j).ret = 0 <;>
        simp [Proc.played, State.view, Proc.view, View.holding, hall k j hj, h0]
  refine ⟨h1, h2, h3, h4, h5, h6, h7, ?_, fun k j hj => ?_⟩
  · rw [h.playing_eq hN (by omega), hpl, hpl, hH, hH]
    simp only [Config.share]
    omega
  · obtain ⟨-, -, hlate, hf⟩ := hI.good k j hj
    simp only [Fits, hall k j hj] at hf
    rw [Ne, hf.2, hlate]
    omega

end End

/-- Two players and two goalies, one of each to a team: some run ends with all four
finished, and `playing` was raised four times. -/
theorem life_cycle_end_start :
    ∃ s, Reachable ⟨2, 2, 1, 1⟩ s ∧
      (∀ k j, j < Config.pool ⟨2, 2, 1, 1⟩ k → (s.proc k j).pc = .finished) ∧ s.playing = 4 := by
  obtain ⟨s, hs, hall⟩ := Reachable.finishes (c := ⟨2, 2, 1, 1⟩) le_rfl rfl le_rfl le_rfl
    ⟨fun _ _ => .arriving, .refl⟩
  have h := Reachable.trans ⟨fun _ _ => .arriving, .refl⟩ hs
  exact ⟨s, h, hall,
    (life_cycle_end (c := ⟨2, 2, 1, 1⟩) le_rfl rfl le_rfl le_rfl h hall).2.2.2.2.2.2.2.1⟩

end SoccerGame
