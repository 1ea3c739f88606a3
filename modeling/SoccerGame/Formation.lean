import SoccerGame.Teams
import SoccerGame.Frame

/-!
The formation system, where every process stops once `xConstituteTeam` has returned, for
`NUMTEAMGOALIES = 1`, `NUMPLAYERS ≥ 2 * NUMTEAMPLAYERS` and `NUMGOALIES ≥ 2`.

* `FormReachable.settled`: every process is before or at the return of `xConstituteTeam`;
* `Good.blocked_cases`: a blocked process waits for `mutex`, for its call on `xWaitTeam`,
  as a forming captain for a registration with a recruit outstanding, or at one of the
  referee's gates;
* `State.resting`: every process has returned or cannot move;
  `Inv.quiet_of_resting`: then no wake-up is pending and no recruit is between its wait and
  its registration; `Inv.resting_idle`, `Inv.resting_mutex`: no captain forms and `mutex`
  is free; `Inv.resting_cases`: and every process has returned, waits at one of the
  referee's gates, or has finished. This holds of the whole life cycle;
* `FormReachable.all_returned`: in a state of the formation system where no process can
  move, every process has returned;
* `Inv.terminal`, `FormReachable.terminal`: then two full teams are formed;
* `FormReachable.stops`: from every state a schedule reaches one where no process can move;
* `formation_completes`: the formation system has no infinite run and no deadlock before
  every process has returned, and where it stops two full teams are formed;
* `formation_finishes`: from every state a schedule reaches that final state.
-/

namespace SoccerGame

variable {c : Config} {s : State} {k : Kind} {i : Nat}

/-- Every step before the return stays before the return or returns. -/
lemma PC.succs_settled {q q' : PC} (hq : q.beforeReturn) (h : q' ∈ q.succs c) :
    q'.beforeReturn ∨ q' = .returned := by
  cases q <;> simp only [PC.beforeReturn, PC.succs, List.mem_cons, List.mem_singleton,
    List.not_mem_nil, or_false, Bool.false_eq_true] at hq h
  all_goals
    rcases h with rfl | rfl | rfl <;>
      (try simp only [Config.callFrom, Config.releaseFrom, Config.collectFrom]) <;>
      (try split_ifs) <;> simp [PC.beforeReturn]

/-- **The formation system stops at the return**: no process goes past it. -/
lemma FormReachable.settled (h : FormReachable c s) (k : Kind) (j : Nat) :
    (s.proc k j).pc.beforeReturn ∨ (s.proc k j).pc = .returned := by
  obtain ⟨stat₀, h⟩ := h
  induction h generalizing k j with
  | refl => exact .inl rfl
  | tail _ hs ih =>
      obtain ⟨a, ha⟩ := hs
      cases a with
      | proc k' i =>
          simp only [formAct] at ha
          split at ha
          · next hc =>
            obtain ⟨hpc, hfr⟩ := step_inv ha
            by_cases hkj : k = k' ∧ j = i
            · obtain ⟨rfl, rfl⟩ := hkj
              exact PC.succs_settled hc.2 hpc
            · rw [(hfr k j hkj).1]
              exact ih k j
          · cases ha
      | startMatch => cases ha
      | endMatch => cases ha

/-- A process that the formation system cannot move, and that has not returned, is
blocked. -/
lemma blocked_of_stuck (hs : ∀ a, formAct c s a = none) (hj : i < c.pool k)
    (hb : (s.proc k i).pc.beforeReturn) : s.blocked k (s.proc k i).pc :=
  step_eq_none_iff.mp (by simpa [formAct, hj, hb] using hs (.proc k i))

/-- **Why a process blocks**: it waits for `mutex` to enter a critical region, for its call
on `xWaitTeam`, as a forming captain for a registration while it has called more recruits
than it has acknowledged, at one of the referee's gates, or it has finished. -/
lemma Good.blocked_cases (hN : 1 ≤ c.numTeamPlayers) {p : Proc} (hg : Good c k p)
    (hb : s.blocked k p.pc) :
    ((p.pc = .arrive ∨ p.pc = .constituteTeam ∨ p.pc = .waitReferee ∨ p.pc = .playUntilEnd) ∧
        s.mutex = 0) ∨
      (p.pc = .waitTeam ∧ s.waitTeam k = 0) ∨
      (p.pc.forming ∧ s.playerRegistered = 0 ∧
        c.acked k p.pc < c.called k p.pc .player + c.called k p.pc .goalie) ∨
      p.pc = .awaitStart ∨ p.pc = .awaitEnd ∨ p.pc = .finished := by
  obtain ⟨-, -, -, hf⟩ := hg
  obtain ⟨q, r, o, role⟩ := p
  cases q <;> simp only [Fits] at hf <;> simp only [State.blocked] at hb <;> cases k <;>
    simp_all [PC.forming, Config.called, Config.acked]
  omega

/-- What a process that cannot move, or has returned, contributes: no reader, no
registration, and a waiting recruit only with no wake-up pending. -/
lemma view_of_blocked {p : Proc} (h : p.pc = .returned ∨ s.blocked k p.pc) :
    View.reading p.view = 0 ∧ View.registering p.view = 0 ∧
      (View.waiting p.view = 1 → s.waitTeam k = 0) := by
  obtain ⟨q, r, o, role⟩ := p
  cases q <;> simp only [State.blocked, reduceCtorEq, or_false, false_or, or_true] at h <;>
    cases role <;> simp_all [Proc.view, PC.canon, View.reading, View.registering, View.waiting]

/-- The view is `arrive` exactly before the decision. -/
lemma PC.canon_eq_arrive {q : PC} {r : Role} :
    q.canon r = .arrive ↔ q = .arrive ∨ q = .arriveCS ∨ q = .constituteTeam ∨ q = .constituteCS := by
  cases q <;> cases r <;> simp [PC.canon]

/-- A process past the decision has entered. -/
lemma Good.entered_view {p : Proc} (hg : Good c k p) (hq : p.view.phase ≠ .arrive) :
    View.entered p.view = 1 := by
  obtain ⟨-, -, -, hf⟩ := hg
  obtain ⟨q, r, o, role⟩ := p
  simp only [Proc.view, ne_eq, PC.canon_eq_arrive, not_or] at hq
  simp only [Proc.view, View.entered]
  cases q <;> simp_all [Fits]

/-- With every process of both kinds past its decision, `xArrived` counts the whole pool,
and the admitted processes are `2 * quota`. -/
lemma Inv.admitted_full (hG : c.numTeamGoalies = 1) (hP : 2 * c.numTeamPlayers ≤ c.numPlayers)
    (hGo : 2 ≤ c.numGoalies) (hI : Inv c s)
    (hall : ∀ k j, j < c.pool k → (s.view k j).phase ≠ .arrive)
    (k : Kind) : total c s.view k View.admitted = 2 * c.quota k := by
  have hent : total c s.view k View.entered = c.pool k :=
    total_eq_pool fun j hj => (hI.good k j hj).entered_view (hall k j hj)
  rw [(hI.ledger.at k).admitted, (hI.ledger.at k).arrived, hent]
  cases k <;> simp [hG] <;> omega

/-- Every process has returned from `xConstituteTeam` or cannot move. -/
def State.resting (c : Config) (s : State) : Prop :=
  ∀ k j, j < c.pool k → (s.proc k j).pc = .returned ∨ s.blocked k (s.proc k j).pc

/-- A state of the formation system where no process can move is resting. -/
lemma FormReachable.resting (h : FormReachable c s) (hs : ∀ a, formAct c s a = none) :
    s.resting c := fun k j hj =>
  (h.settled k j).symm.imp_right (blocked_of_stuck hs hj)

lemma FormReachable.trans {s' : State} (h : FormReachable c s)
    (hs : Relation.ReflTransGen (FormStep c) s s') : FormReachable c s' :=
  let ⟨stat₀, h⟩ := h
  ⟨stat₀, h.trans hs⟩

/-- From every state a schedule of the formation system reaches one where no process can
move: each step shortens `formMeasure`. -/
lemma FormReachable.stops (s : State) :
    ∃ s', Relation.ReflTransGen (FormStep c) s s' ∧ ∀ a, formAct c s' a = none := by
  generalize hm : formMeasure c s = n
  induction n using Nat.strong_induction_on generalizing s with
  | _ n ih =>
    by_cases hs : ∀ a, formAct c s a = none
    · exact ⟨s, .refl, hs⟩
    push_neg at hs
    obtain ⟨a, ha⟩ := hs
    obtain ⟨s₁, ha⟩ := Option.ne_none_iff_exists'.mp ha
    obtain ⟨s', hss, hn⟩ := ih _ (hm ▸ formMeasure_lt ⟨a, ha⟩) s₁ rfl
    exact ⟨s', .head ⟨a, ha⟩ hss, hn⟩

/-- A view at the end of the life cycle. -/
lemma View.eq_finished {v : View} (h : v.phase = .finished) : v = ⟨.finished, v.ret, v.role⟩ := by
  cases v; simp_all

section Complete

variable (hN : 1 ≤ c.numTeamPlayers) (hG : c.numTeamGoalies = 1)
include hN hG

/-- **A resting state is quiet**: no wake-up is pending, no recruit reads `teamId` or is
about to register. A pending wake-up would have a waiting recruit to take it. -/
lemma Inv.quiet_of_resting (hI : Inv c s) (hr : s.resting c) (k : Kind) :
    s.waitTeam k = 0 ∧ total c s.view k View.reading = 0 ∧
      total c s.view k View.registering = 0 := by
  have hv : ∀ j < c.pool k, View.reading (s.view k j) = 0 ∧ View.registering (s.view k j) = 0 ∧
      (View.waiting (s.view k j) = 1 → s.waitTeam k = 0) := fun j hj => view_of_blocked (hr k j hj)
  refine ⟨Nat.eq_zero_of_not_pos fun hw => ?_, total_eq_zero fun j hj => (hv j hj).1,
    total_eq_zero fun j hj => (hv j hj).2.1⟩
  obtain ⟨j, hj, hwj⟩ := exists_of_total_pos (lt_of_lt_of_le hw (hI.waitTeam_le hN hG k))
  have h1 : View.waiting (s.view k j) = 1 := by
    simp only [View.waiting] at hwj ⊢; split at hwj <;> simp_all
  exact absurd ((hv j hj).2.2 h1) (by omega)

/-- In a resting state no captain forms: it would have a recruit outstanding, one that
could move. -/
lemma Inv.resting_idle (hI : Inv c s) (hr : s.resting c) : s.forming c = 0 := by
  by_contra hne
  obtain ⟨k, j, hj, hf⟩ := s.exists_forming (Nat.pos_of_ne_zero hne)
  have hne : (s.proc k j).pc ≠ .returned := fun e => by simp [e, PC.forming] at hf
  rcases (hI.good k j hj).blocked_cases hN ((hr k j hj).resolve_left hne) with
    ⟨h1 | h1 | h1 | h1, -⟩ | ⟨h1, -⟩ | ⟨-, h0, hlt⟩ | h1 | h1 | h1 <;>
    try simp [h1, PC.forming] at hf
  have ho := hI.outstanding_eq hj hf
  have hq := hI.quiet_of_resting hN hG hr
  have hqp := hq .player
  have hqg := hq .goalie
  simp only [State.outstanding] at ho
  omega

/-- In a resting state `mutex` is free: a process holding it could move. -/
lemma Inv.resting_mutex (hI : Inv c s) (hr : s.resting c) : s.mutex ≠ 0 := fun hm0 => by
  have hh := hI.mutex
  rw [State.holders_split, hI.resting_idle hN hG hr] at hh
  obtain ⟨k, j, hj, hcs⟩ := exists_of_sum_pos (c := c) (v := s.proc)
    (f := fun p => if p.pc.inCS && !p.pc.forming then 1 else 0) (by omega)
  have hne : (s.proc k j).pc ≠ .returned := fun e => by simp [e, PC.inCS] at hcs
  rcases (hI.good k j hj).blocked_cases hN ((hr k j hj).resolve_left hne) with
    ⟨h1 | h1 | h1 | h1, -⟩ | ⟨h1, -⟩ | ⟨h1, -⟩ | h1 | h1 | h1 <;> simp [h1, PC.inCS] at hcs

/-- In a resting state every process waits for its call, has returned, waits at one of the
referee's gates, or has finished. -/
lemma Inv.resting_waits (hI : Inv c s) (hr : s.resting c) (hi : i < c.pool k) :
    (s.proc k i).pc = .waitTeam ∨ (s.proc k i).pc = .returned ∨ (s.proc k i).pc = .awaitStart ∨
      (s.proc k i).pc = .awaitEnd ∨ (s.proc k i).pc = .finished := by
  by_cases hne : (s.proc k i).pc = .returned
  · exact .inr (.inl hne)
  rcases (hI.good k i hi).blocked_cases hN ((hr k i hi).resolve_left hne) with
    ⟨-, h0⟩ | ⟨h1, -⟩ | ⟨h1, -⟩ | h1 | h1 | h1
  · exact absurd h0 (hI.resting_mutex hN hG hr)
  · exact .inl h1
  · have := s.one_le_forming hi h1
    have := hI.resting_idle hN hG hr
    omega
  all_goals simp only [h1, reduceCtorEq, true_or, or_true]

/-- **No deadlock**: in a resting state every process has returned from `xConstituteTeam`,
waits at one of the referee's gates, or has finished. Recruits left waiting for a call
would make the free counters meet both quotas, which `xConstituteTeam` never leaves
behind. -/
lemma Inv.resting_cases (hP : 2 * c.numTeamPlayers ≤ c.numPlayers) (hGo : 2 ≤ c.numGoalies)
    (hI : Inv c s) (hr : s.resting c) :
    ∀ k j, j < c.pool k → (s.proc k j).pc = .returned ∨ (s.proc k j).pc = .awaitStart ∨
      (s.proc k j).pc = .awaitEnd ∨ (s.proc k j).pc = .finished := by
  have hf0 := hI.resting_idle hN hG hr
  -- count the waiting recruits
  intro k j hj
  by_contra hne
  have hw := (hI.resting_waits hN hG hr hj).resolve_right hne
  obtain ⟨-, -, -, hfj⟩ := hI.good k j hj
  simp only [Fits, hw] at hfj
  have hwk := le_total (v := s.view) (f := View.waiting) hj
  simp only [State.view, Proc.view, PC.canon, hw, hfj.1, View.waiting, if_true] at hwk
  obtain ⟨-, -, -, hz⟩ := hI.quiet hf0
  have hentered : ∀ k j, j < c.pool k → (s.view k j).phase ≠ .arrive := fun k j hj => by
    rcases hI.resting_waits hN hG hr hj with h | h | h | h | h <;>
      simp [State.view, Proc.view, PC.canon_eq_arrive, h]
  have hcount : ∀ k', total c s.view k' View.waiting + c.quota k' * (s.teamId - 1) =
      2 * c.quota k' ∧ s.free k' = total c s.view k' View.waiting := fun k' => by
    have hq' : c.quota k' = c.share k' := by cases k' <;> simp [Config.share, hG]
    obtain ⟨-, hr0, hh0, hfr⟩ := hz k'
    have hA := hI.admitted_eq k'
    have hC := (hI.ledger.at k').current
    rw [hI.admitted_full hG hP hGo hentered, s.total_forming_eq_zero hf0] at hA
    rw [hq'] at hfr hA ⊢
    constructor <;> omega
  have hid := hI.ledger.idle hf0
  have hT := (hI.teamId_le hN).1
  have hT1 := hI.one_le_teamId
  obtain ⟨hp, hpf⟩ := hcount .player
  obtain ⟨hg, hgf⟩ := hcount .goalie
  have hk := (hcount k).1
  simp only [Config.quota_player, Config.quota_goalie, hG] at hp hg hid
  obtain h1 | h2 | h3 : s.teamId = 1 ∨ s.teamId = 2 ∨ s.teamId = 3 := by omega
  · simp only [h1] at hp hg; omega
  · simp only [h2] at hp hg; omega
  · simp only [h3] at hk; cases k <;> simp only [Config.quota_player, Config.quota_goalie] at hk <;>
      omega

/-- **No deadlock before the end**: in a state of the formation system where no process
can move, every process has returned from `xConstituteTeam`. -/
lemma FormReachable.all_returned (hP : 2 * c.numTeamPlayers ≤ c.numPlayers)
    (hGo : 2 ≤ c.numGoalies) (h : FormReachable c s) (hs : ∀ a, formAct c s a = none) :
    ∀ k j, j < c.pool k → (s.proc k j).pc = .returned := fun k j hj => by
  have hc := (h.inv hN (by omega)).resting_cases hN hG hP hGo (h.resting hs) k j hj
  rcases h.settled k j with hb | hr
  · rcases hc with hc | hc | hc | hc <;> simp [hc, PC.beforeReturn] at hb
  · exact hr

/-- **Two full teams at the end.** When every process is past `xConstituteTeam` and its
registration, `teamId` is 3, both free counters, both `xWaitTeam` and `playerRegistered`
are 0, `refereeWaitTeams` was raised twice, and each kind holds two teams' share of ids. -/
lemma Inv.terminal (hP : 2 * c.numTeamPlayers ≤ c.numPlayers) (hGo : 2 ≤ c.numGoalies)
    (hI : Inv c s) (hall : ∀ k j, j < c.pool k → (s.view k j).phase = .finished) :
    s.teamId = 3 ∧ s.free .player = 0 ∧ s.free .goalie = 0 ∧ s.waitTeam .player = 0 ∧
      s.waitTeam .goalie = 0 ∧ s.playerRegistered = 0 ∧ s.refereeWaitTeams = 2 ∧
      ∀ k, total c s.view k View.holding = 2 * c.share k := by
  -- every view is `finished`
  have hv0 : ∀ k (f : View → Nat), (∀ r o, f ⟨.finished, r, o⟩ = 0) → total c s.view k f = 0 :=
    fun k f hf => total_eq_zero fun j hj => by rw [View.eq_finished (hall k j hj)]; exact hf _ _
  have hf0 : s.forming c = 0 := by
    simp only [State.forming, hv0 _ View.forming fun _ _ => rfl]
  obtain ⟨hreg, -, -, hz⟩ := hI.quiet hf0
  have hcount : ∀ k', c.quota k' * (s.teamId - 1) = 2 * c.quota k' ∧ s.free k' = 0 := fun k' => by
    have hq' : c.quota k' = c.share k' := by cases k' <;> simp [Config.share, hG]
    obtain ⟨-, -, hh0, hfr⟩ := hz k'
    have hA := hI.admitted_eq k'
    have hC := (hI.ledger.at k').current
    rw [hI.admitted_full hG hP hGo (fun k j hj => by simp [hall k j hj]),
      s.total_forming_eq_zero hf0, hv0 _ View.waiting fun _ _ => rfl,
      hv0 _ View.reading fun _ _ => rfl] at hA
    rw [hv0 _ View.waiting fun _ _ => rfl] at hfr
    rw [hq'] at hfr hA ⊢
    constructor <;> omega
  have hT1 := hI.one_le_teamId
  have hT : s.teamId - 1 = 2 := Nat.eq_of_mul_eq_mul_left hN (by
    have := (hcount .player).1; simp only [Config.quota_player] at this; omega)
  have hR := hI.ledger.referee
  rw [hv0 _ View.signaling fun _ _ => rfl, hv0 _ View.signaling fun _ _ => rfl] at hR
  refine ⟨by omega, (hcount _).2, (hcount _).2, (hz _).1, (hz _).1, hreg, by omega, fun k => ?_⟩
  have hC := (hI.ledger.at k).current
  rw [(hz k).2.2.1, hT] at hC
  omega

/-- **Two full teams at the end of the formation.** When every process has returned,
`teamId` is 3, both free counters, both `xWaitTeam` and `playerRegistered` are 0,
`refereeWaitTeams` was raised twice, and the first `2 * quota` processes of each kind hold
the ids 1 and 2. -/
lemma FormReachable.terminal (hP : 2 * c.numTeamPlayers ≤ c.numPlayers) (hGo : 2 ≤ c.numGoalies)
    (h : FormReachable c s) (hall : ∀ k j, j < c.pool k → (s.proc k j).pc = .returned) :
    s.teamId = 3 ∧ s.free .player = 0 ∧ s.free .goalie = 0 ∧ s.waitTeam .player = 0 ∧
      s.waitTeam .goalie = 0 ∧ s.playerRegistered = 0 ∧ s.refereeWaitTeams = 2 ∧
      ∀ k j, j < c.pool k → (s.proc k j).order ≤ 2 * c.quota k →
        (s.proc k j).ret = 1 ∨ (s.proc k j).ret = 2 := by
  have hI := h.inv hN (by omega)
  obtain ⟨h1, h2, h3, h4, h5, h6, h7, -⟩ := hI.terminal hN hG hP hGo fun k j hj => by
    simp [State.view, Proc.view, hall k j hj, PC.canon]
  exact ⟨h1, h2, h3, h4, h5, h6, h7, fun k j hj ho => (hI.returned hj (hall k j hj)).2 (by omega)⟩

/-- **Formation never deadlocks, and always ends with two full teams.** The formation
system has no infinite run, since each step shortens `formMeasure`; in every state of it
where some process has not returned from `xConstituteTeam`, some process can move; and in a
state where none can, `teamId` is 3, the free counters, the wake-ups and the registrations
are 0, `refereeWaitTeams` was raised twice, and the first `2 * NUMTEAMPLAYERS` players and
first 2 goalies to enter hold the ids 1 and 2. -/
theorem formation_completes (hP : 2 * c.numTeamPlayers ≤ c.numPlayers) (hGo : 2 ≤ c.numGoalies) :
    WellFounded (fun s' s => FormStep c s s') ∧
    (∀ s, FormReachable c s → (∃ k j, j < c.pool k ∧ (s.proc k j).pc.beforeReturn) →
      ∃ a s', formAct c s a = some s') ∧
    (∀ s, FormReachable c s → (∀ a, formAct c s a = none) →
      s.teamId = 3 ∧ s.free .player = 0 ∧ s.free .goalie = 0 ∧ s.waitTeam .player = 0 ∧
        s.waitTeam .goalie = 0 ∧ s.playerRegistered = 0 ∧ s.refereeWaitTeams = 2 ∧
        ∀ k j, j < c.pool k → (s.proc k j).order ≤ 2 * c.quota k →
          (s.proc k j).ret = 1 ∨ (s.proc k j).ret = 2) := by
  refine ⟨Subrelation.wf (fun h => formMeasure_lt h) (measure (formMeasure c)).wf,
    fun s h ⟨k, j, hj, hb⟩ => ?_, fun s h hs => h.terminal hN hG hP hGo
    (h.all_returned hN hG hP hGo hs)⟩
  by_contra hn
  push_neg at hn
  have hr := h.all_returned hN hG hP hGo (fun a => Option.eq_none_iff_forall_not_mem.mpr (hn a))
    k j hj
  simp [hr, PC.beforeReturn] at hb

/-- **The formation always finishes.** From every state of the formation system the
processes can be scheduled until none can move, and there every process has returned from
`xConstituteTeam`, `teamId` is 3 and the first `2 * quota` processes of each kind hold the
ids 1 and 2. Each step shortens `formMeasure`, so the schedule is found by induction on
it. -/
theorem formation_finishes (hP : 2 * c.numTeamPlayers ≤ c.numPlayers) (hGo : 2 ≤ c.numGoalies)
    (h : FormReachable c s) :
    ∃ s', Relation.ReflTransGen (FormStep c) s s' ∧ (∀ a, formAct c s' a = none) ∧
      (∀ k j, j < c.pool k → (s'.proc k j).pc = .returned) ∧ s'.teamId = 3 ∧
      ∀ k j, j < c.pool k → (s'.proc k j).order ≤ 2 * c.quota k →
        (s'.proc k j).ret = 1 ∨ (s'.proc k j).ret = 2 := by
  obtain ⟨s', hss, hs⟩ := FormReachable.stops (c := c) s
  have h' := h.trans hss
  have hall := h'.all_returned hN hG hP hGo hs
  have ht := h'.terminal hN hG hP hGo hall
  exact ⟨s', hss, hs, hall, ht.1, ht.2.2.2.2.2.2.2⟩

end Complete

/-- Two players and two goalies, one of each to a team: the start state can move, and a
schedule of the formation reaches a state where no process can, with `teamId` 3 and
`refereeWaitTeams` raised twice. -/
theorem formation_completes_end :
    (∃ a s', formAct ⟨2, 2, 1, 1⟩ (init fun _ _ => .arriving) a = some s') ∧
    ∃ s, FormReachable ⟨2, 2, 1, 1⟩ s ∧ (∀ a, formAct ⟨2, 2, 1, 1⟩ s a = none) ∧
      s.teamId = 3 ∧ s.refereeWaitTeams = 2 := by
  have h := formation_completes (c := ⟨2, 2, 1, 1⟩) le_rfl rfl le_rfl le_rfl
  obtain ⟨s, hs, hn⟩ := FormReachable.stops (c := ⟨2, 2, 1, 1⟩) (init fun _ _ => .arriving)
  have hr : FormReachable ⟨2, 2, 1, 1⟩ s := ⟨_, hs⟩
  have ht := h.2.2 s hr hn
  exact ⟨h.2.1 _ ⟨_, .refl⟩ ⟨.player, 0, by decide, rfl⟩, s, hr, hn, ht.1, ht.2.2.2.2.2.2.1⟩

/-- Two players and two goalies, one of each to a team: from the start a schedule forms
both teams. -/
theorem formation_finishes_start :
    ∃ s', Relation.ReflTransGen (FormStep ⟨2, 2, 1, 1⟩) (init fun _ _ => .arriving) s' ∧
      s'.teamId = 3 :=
  let ⟨s', hs, _, _, ht, _⟩ :=
    formation_finishes (c := ⟨2, 2, 1, 1⟩) le_rfl rfl le_rfl le_rfl ⟨_, .refl⟩
  ⟨s', hs, ht⟩

end SoccerGame
