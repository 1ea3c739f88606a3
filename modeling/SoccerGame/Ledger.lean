import SoccerGame.Local

/-!
The ledger of the formation protocol: every shared counter of `sh->fSt` and every
recruitment semaphore, balanced against the processes that account for it.

* `LedgerAt`: the equations of one kind. `xArrived` counts the entered processes; the
  admitted ones number `min xArrived (2 * quota)`; `xWaitTeam` plus the recruits that went
  past it equals the calls of the forming captain plus one team's share per closed team;
  `xFree` as the forming captain found it, plus one quota per closed team, is the number
  admitted; every closed team holds its share, and no process holds an id not yet issued;
* `Ledger`: both kinds, `playerRegistered` against the recruits that registered and the
  captain's completed waits, `teamId - 1` against the closed captains and against the
  raises of `refereeWaitTeams` with the captains about to raise it, one captain per
  issued id, and the captain's rule: with no captain forming, the free counters do not
  meet both quotas; with one forming, they met both at its decision and did not one
  arrival earlier;
* `Ledger.congr`: the ledger only reads the views and six counters, so a step that keeps
  those keeps it.
-/

namespace SoccerGame

/-- Members of kind `k` in a complete team: `NUMTEAMPLAYERS` players and the one goalie
the code calls, whatever `NUMTEAMGOALIES` is. -/
def Config.share (c : Config) : Kind → Nat
  | .player => c.numTeamPlayers
  | .goalie => 1

namespace State

variable (c : Config) (s : State)

/-- The calls on `xWaitTeam` made by the captain forming a team. -/
def calls (k : Kind) : Nat :=
  total c s.view .player (fun v => c.called .player v.phase k) +
    total c s.view .goalie (fun v => c.called .goalie v.phase k)

/-- Its completed waits on `playerRegistered`. -/
def acks : Nat :=
  total c s.view .player (fun v => c.acked .player v.phase) +
    total c s.view .goalie (fun v => c.acked .goalie v.phase)

/-- Whether the captain forming a team has taken its quota of kind `k` off `xFree`. -/
def taken (k : Kind) : Nat :=
  total c s.view .player (fun v => took .player v.phase k) +
    total c s.view .goalie (fun v => took .goalie v.phase k)

/-- `xFree` as the forming captain found it at its decision: what it has taken off is
added back. -/
def reserved (k : Kind) : Nat := s.free k + c.quota k * s.taken c k

/-- The captains between their decision and `ret = teamId++`. -/
def forming : Nat := total c s.view .player View.forming + total c s.view .goalie View.forming

/-- The processes holding `mutex`. -/
def holders : Nat :=
  total c s.proc .player (fun p => if p.pc.inCS then 1 else 0) +
    total c s.proc .goalie (fun p => if p.pc.inCS then 1 else 0)

end State

/-- The ledger equations of kind `k`. -/
structure LedgerAt (c : Config) (s : State) (k : Kind) : Prop where
  arrived : s.arrived k = total c s.view k View.entered
  admitted : total c s.view k View.admitted = min (s.arrived k) (2 * c.quota k)
  called : s.waitTeam k + total c s.view k View.reading + total c s.view k View.holding =
    s.calls c k + c.share k * (s.teamId - 1)
  free : s.reserved c k + c.quota k * (s.teamId - 1) = total c s.view k View.admitted
  current : total c s.view k View.holding =
    c.share k * (s.teamId - 1) + total c s.view k (View.holds s.teamId)
  complete : ∀ t, 1 ≤ t → t < s.teamId → total c s.view k (View.holds t) = c.share k
  unissued : ∀ t, s.teamId < t → total c s.view k (View.holds t) = 0

/-- The ledger of both kinds. -/
structure Ledger (c : Config) (s : State) : Prop where
  player : LedgerAt c s .player
  goalie : LedgerAt c s .goalie
  registered : s.playerRegistered + s.acks c + total c s.view .player View.registering +
      total c s.view .goalie View.registering + (c.numTeamPlayers + 1) * (s.teamId - 1) =
    total c s.view .player View.holding + total c s.view .goalie View.holding
  closed : s.teamId = 1 + total c s.view .player View.closed + total c s.view .goalie View.closed
  referee : s.refereeWaitTeams + total c s.view .player View.signaling +
    total c s.view .goalie View.signaling + 1 = s.teamId
  captain : ∀ t, 1 ≤ t →
    total c s.view .player (View.captainOf t) + total c s.view .goalie (View.captainOf t) =
      if t < s.teamId then 1 else 0
  idle : s.forming c = 0 →
    ¬ (c.numTeamPlayers ≤ s.free .player ∧ c.numTeamGoalies ≤ s.free .goalie)
  busy : s.forming c = 1 →
    c.numTeamPlayers ≤ s.reserved c .player ∧ c.numTeamGoalies ≤ s.reserved c .goalie ∧
      ¬ (c.numTeamPlayers + total c s.view .player View.forming ≤ s.reserved c .player ∧
        c.numTeamGoalies + total c s.view .goalie View.forming ≤ s.reserved c .goalie)

lemma Ledger.at {c : Config} {s : State} (h : Ledger c s) : ∀ k, LedgerAt c s k
  | .player => h.player
  | .goalie => h.goalie

/-- The equations of kind `k` read only the sums over kind `k`, its counters, `teamId`,
its calls and its reserved counter. -/
lemma LedgerAt.congr {c : Config} {s s' : State} {k : Kind} (h : LedgerAt c s k)
    (hv : ∀ f, total c s'.view k f = total c s.view k f) (ha : s'.arrived k = s.arrived k)
    (hw : s'.waitTeam k = s.waitTeam k) (ht : s'.teamId = s.teamId)
    (hc : s'.calls c k = s.calls c k) (hr : s'.reserved c k = s.reserved c k) :
    LedgerAt c s' k := by
  obtain ⟨h1, h2, h3, h4, h5, h6, h7⟩ := h
  refine ⟨?_, ?_, ?_, ?_, ?_, ?_, ?_⟩ <;> simp only [hv, ha, hw, ht, hc, hr] <;> assumption

/-- The ledger reads only the views, `xArrived`, `xFree`, `teamId`, `xWaitTeam`,
`playerRegistered` and `refereeWaitTeams`. -/
lemma Ledger.congr {c : Config} {s s' : State} (h : Ledger c s) (hv : s'.view = s.view)
    (ha : s'.arrived = s.arrived) (hf : s'.free = s.free) (ht : s'.teamId = s.teamId)
    (hw : s'.waitTeam = s.waitTeam) (hr : s'.playerRegistered = s.playerRegistered)
    (hrw : s'.refereeWaitTeams = s.refereeWaitTeams) : Ledger c s' := by
  have hat : ∀ k, LedgerAt c s k → LedgerAt c s' k := fun k h =>
    h.congr (by simp only [hv, implies_true]) (by rw [ha]) (by rw [hw]) ht
      (by simp only [State.calls, hv]) (by simp only [State.reserved, State.taken, hv, hf])
  obtain ⟨hp, hg, h3, h4, h5, h6, h7, h8⟩ := h
  exact ⟨hat _ hp, hat _ hg, by simpa only [State.acks, hv, hr, ht] using h3,
    by rw [hv, ht]; exact h4, by rw [hv, ht, hrw]; exact h5, by rw [hv, ht]; exact h6,
    by simpa only [State.forming, hv, hf] using h7,
    by simpa only [State.forming, State.reserved, State.taken, hv, hf] using h8⟩

/-- The views of the start state. -/
lemma view_init (stat₀ : Kind → Nat → Stat) :
    (init stat₀).view = fun _ _ => ⟨.arrive, 0, .undecided⟩ := rfl

lemma total_init {c : Config} {stat₀ : Kind → Nat → Stat} {k : Kind} {f : View → Nat} :
    total c (init stat₀).view k f = c.pool k * f ⟨.arrive, 0, .undecided⟩ := by
  simp [total, view_init, sumBelow_const]

/-- The ledger of the start state. -/
lemma ledger_init (c : Config) (hN : 1 ≤ c.numTeamPlayers) (stat₀ : Kind → Nat → Stat) :
    Ledger c (init stat₀) := by
  have hat : ∀ k, LedgerAt c (init stat₀) k := fun k => by
    constructor <;> intros <;>
      simp only [State.calls, State.reserved, State.taken, total_init, View.entered, View.admitted,
        View.reading, View.holding, View.holds, Config.called, took] <;>
      simp_all [init, Nat.mul_eq_zero]
    omega
  refine ⟨hat _, hat _, ?_, ?_, ?_, ?_, ?_, ?_⟩ <;>
    simp only [State.acks, State.forming, State.reserved, State.taken, total_init, View.registering,
      View.holding, View.closed, View.captainOf, View.forming, View.signaling, PC.forming,
      Config.acked, took] <;>
    simp_all [init] <;> intros <;> (try split_ifs) <;> omega

end SoccerGame
