import SoccerGame.Count

/-!
What the shared counters see of a process. A process's contribution to `xArrived`,
`xFree`, `teamId` and the recruitment semaphores depends only on its branch, its `ret`
and how far its captain's loops have gone; most of its steps (taking or releasing `mutex`,
the status test, the referee's two gates) change none of these.

* `PC.inCS`: the steps taken holding `mutex`;
* `PC.forming`: a captain's steps from its decision to `ret = teamId++`;
* `Config.called`, `Config.acked`, `took`: how many `semUp(xWaitTeam)` and
  `semDown(playerRegistered)` a captain has made, and whether it has taken its quota of a
  kind off `xFree`;
* `Proc.view`: the process up to the steps that change no counter (`PC.canon`);
* `View.entered` … `View.holds`: the per-process terms of the sums in `Ledger.lean`.
-/

namespace SoccerGame

namespace PC

/-- The steps taken holding `mutex`. -/
def inCS : PC → Bool
  | .arriveCS | .constituteCS | .callPlayer _ | .awaitPlayer _ | .callGoalie | .awaitGoalie
  | .releasePlayer _ | .collectPlayer _ | .closeTeam | .leaveCS | .waitRefereeCS | .playCS => true
  | _ => false

/-- A captain's steps from its decision to `ret = teamId++`. -/
def forming : PC → Bool
  | .callPlayer _ | .awaitPlayer _ | .callGoalie | .awaitGoalie | .releasePlayer _
  | .collectPlayer _ | .closeTeam => true
  | _ => false

/-- The step `q` up to the moves that change no counter: everything before the decision is
`arrive`; a recruit waiting for its call is at `waitTeam`; a captain that has closed its
team and not yet raised `refereeWaitTeams` is at `signalReferee`; a late process, and a
captain or recruit past its registration, is `finished`. -/
def canon (r : Role) : PC → PC
  | .arrive | .arriveCS | .constituteTeam | .constituteCS => .arrive
  | .leaveCS | .dispatch | .waitTeam | .signalReferee =>
      if r = .recruit then .waitTeam else if r = .captain then .signalReferee else .finished
  | .returned | .waitReferee | .waitRefereeCS | .awaitStart | .playUntilEnd | .playCS
  | .awaitEnd | .finished => .finished
  | q => q

end PC

namespace Config

/-- The `semUp(xWaitTeam)` on the kind `k'` semaphore that a captain of kind `k` at `q` has
made: the player captain calls `NUMTEAMPLAYERS - 1` players then one goalie, the goalie
captain `NUMTEAMPLAYERS` players and no goalie. -/
def called (c : Config) : Kind → PC → Kind → Nat
  | .player, .callPlayer j, .player => j
  | .player, .awaitPlayer j, .player => j + 1
  | .player, .callGoalie, .player | .player, .awaitGoalie, .player
  | .player, .closeTeam, .player => c.numTeamPlayers - 1
  | .player, .awaitGoalie, .goalie | .player, .closeTeam, .goalie => 1
  | .goalie, .releasePlayer j, .player => j
  | .goalie, .collectPlayer _, .player | .goalie, .closeTeam, .player => c.numTeamPlayers
  | _, _, _ => 0

/-- The `semDown(playerRegistered)` a captain of kind `k` at `q` has completed. -/
def acked (c : Config) : Kind → PC → Nat
  | .player, .callPlayer j | .player, .awaitPlayer j => j
  | .player, .callGoalie | .player, .awaitGoalie => c.numTeamPlayers - 1
  | .player, .closeTeam | .goalie, .closeTeam => c.numTeamPlayers
  | .goalie, .collectPlayer j => j
  | _, _ => 0

end Config

/-- Whether a captain of kind `k` at `q` has taken its quota of kind `k'` off `xFree`: the
goalie captain takes its goalies at its decision, the player captain its players after its
loop; the other kind goes at `closeTeam`. -/
def took : Kind → PC → Kind → Nat
  | .player, .awaitGoalie, .player | .player, .closeTeam, .player => 1
  | .goalie, .releasePlayer _, .goalie | .goalie, .collectPlayer _, .goalie
  | .goalie, .closeTeam, .goalie => 1
  | _, _, _ => 0

/-- What the counters see of a process. -/
structure View where
  phase : PC
  ret : Nat
  role : Role
  deriving DecidableEq, Repr

/-- The view of a process. -/
def Proc.view (p : Proc) : View := ⟨p.pc.canon p.role, p.ret, p.role⟩

namespace View

/-- It has entered the critical region of `xConstituteTeam`. -/
def entered (v : View) : Nat := if v.role = .undecided then 0 else 1

/-- It entered among the first `2 * quota` of its kind. -/
def admitted (v : View) : Nat := if v.role = .captain ∨ v.role = .recruit then 1 else 0

/-- A recruit not yet past `semDown(xWaitTeam)`. -/
def waiting (v : View) : Nat := if v.phase = .waitTeam then 1 else 0

/-- A recruit past its call that has not read `teamId`. -/
def reading (v : View) : Nat := if v.phase = .readTeamId then 1 else 0

/-- A recruit that has read `teamId` and not yet raised `playerRegistered`. -/
def registering (v : View) : Nat := if v.phase = .register then 1 else 0

/-- It holds a team id. -/
def holding (v : View) : Nat := if v.ret = 0 then 0 else 1

/-- It holds the team id `t`. -/
def holds (t : Nat) (v : View) : Nat := if v.ret = t then 1 else 0

/-- A captain past `ret = teamId++` that has not raised `refereeWaitTeams`. -/
def signaling (v : View) : Nat := if v.phase = .signalReferee then 1 else 0

/-- A captain between its decision and `ret = teamId++`. -/
def forming (v : View) : Nat := if v.phase.forming then 1 else 0

/-- A captain past `ret = teamId++`. -/
def closed (v : View) : Nat := if v.role = .captain ∧ v.ret ≠ 0 then 1 else 0

/-- The captain that took the team id `t`. -/
def captainOf (t : Nat) (v : View) : Nat := if v.role = .captain ∧ v.ret = t then 1 else 0

end View

/-- Only a captain's steps count calls. -/
lemma called_eq_zero {c : Config} {q : PC} (h : q.forming = false) (k k' : Kind) :
    c.called k q k' = 0 := by
  cases q <;> cases k <;> cases k' <;> simp_all [Config.called, PC.forming]

/-- Only a captain's steps count completed waits. -/
lemma acked_eq_zero {c : Config} {q : PC} (h : q.forming = false) (k : Kind) : c.acked k q = 0 := by
  cases q <;> cases k <;> simp_all [Config.acked, PC.forming]

/-- Only a captain's steps count taken quotas. -/
lemma took_eq_zero {q : PC} (h : q.forming = false) (k k' : Kind) : took k q k' = 0 := by
  cases q <;> cases k <;> cases k' <;> simp_all [took, PC.forming]

/-- The view of a captain keeps its step, and no other view is a captain's. -/
lemma PC.canon_of_forming {q : PC} (h : q.forming = true) (r : Role) : q.canon r = q := by
  cases q <;> simp_all [PC.forming, PC.canon]

@[simp] lemma PC.forming_canon (q : PC) (r : Role) : (q.canon r).forming = q.forming := by
  cases q <;> cases r <;> rfl

@[simp] lemma called_canon {c : Config} (k : Kind) (q : PC) (r : Role) (k' : Kind) :
    c.called k (q.canon r) k' = c.called k q k' := by
  cases h : q.forming
  · rw [called_eq_zero h, called_eq_zero (by simpa using h)]
  · rw [PC.canon_of_forming h]

@[simp] lemma acked_canon {c : Config} (k : Kind) (q : PC) (r : Role) :
    c.acked k (q.canon r) = c.acked k q := by
  cases h : q.forming
  · rw [acked_eq_zero h, acked_eq_zero (by simpa using h)]
  · rw [PC.canon_of_forming h]

@[simp] lemma took_canon (k : Kind) (q : PC) (r : Role) (k' : Kind) :
    took k (q.canon r) k' = took k q k' := by
  cases h : q.forming
  · rw [took_eq_zero h, took_eq_zero (by simpa using h)]
  · rw [PC.canon_of_forming h]

namespace State

/-- The views of all processes. -/
def view (s : State) (k : Kind) (j : Nat) : View := (s.proc k j).view

end State

end SoccerGame
