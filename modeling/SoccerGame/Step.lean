import SoccerGame.Basic
import Mathlib.Logic.Relation

/-!
One atomic step of a player or goalie process, as the two programs compute it, and the
runs of the system (player program lines 140-354, `semSharedMemGoalie.c` lines 138-335).

* `step`: the step of process `i` of kind `k`, `none` when it blocks on a semaphore at
  0 or has finished. The two programs differ only in the captain's branch of
  `xConstituteTeam`: the player captain interleaves one call and one registration wait per
  player (line 196), then calls one goalie; the goalie captain raises `playersWaitTeam`
  `NUMTEAMPLAYERS` times (line 192) before its first wait (line 201);
* `constitute`: the critical region of `xConstituteTeam`;
* `act`, `Step`, `Reachable`: any interleaving of the processes' steps and of the
  referee, which may raise `playersWaitReferee` and `playersWaitEnd` at any time;
* `formAct`, `FormStep`, `FormReachable`: the formation system, where every process stops
  once `xConstituteTeam` has returned and the referee does nothing;
* `run`: a fixed schedule, run on a fixed start; `run_witness`: what its end
  state shows of the reachable states; `firstTeam`: a schedule that forms team 1.
-/

namespace SoccerGame

namespace Config

/-- The test of the player captain's loop of line 196 before iteration `i`. -/
def callFrom (c : Config) (i : Nat) : PC :=
  if i < c.numTeamPlayers - 1 then .callPlayer i else .callGoalie

/-- The test of the goalie captain's loop of line 201 before iteration `i`. -/
def collectFrom (c : Config) (i : Nat) : PC :=
  if i < c.numTeamPlayers then .collectPlayer i else .closeTeam

/-- The test of the goalie captain's loop of line 192 before iteration `i`. -/
def releaseFrom (c : Config) (i : Nat) : PC :=
  if i < c.numTeamPlayers then .releasePlayer i else c.collectFrom 0

end Config

namespace State

/-- Process `i` of kind `k` moves on to `q`. -/
def goto (s : State) (k : Kind) (i : Nat) (q : PC) : State :=
  s.setProc k i { s.proc k i with pc := q }

/-- `xFree -= n`. -/
def takeFree (s : State) (k : Kind) (n : Nat) : State :=
  { s with free := Function.update s.free k (s.free k - n) }

/-- `semUp(xWaitTeam)`: one waiting process of kind `k` may go. -/
def callTeam (s : State) (k : Kind) : State :=
  { s with waitTeam := Function.update s.waitTeam k (s.waitTeam k + 1) }

end State

/-- The critical region of `xConstituteTeam` (player lines 183-241, goalie lines 180-222):
both counters of the process's kind go up; past `2 * quota` arrivals it is late and gives
its free slot back; with enough free players and goalies it is the captain (a goalie
captain takes its goalies off `goaliesFree` at once); otherwise it waits for a team. -/
def constitute (c : Config) (s : State) (k : Kind) (i : Nat) : State :=
  let s := { s with arrived := Function.update s.arrived k (s.arrived k + 1),
                    free := Function.update s.free k (s.free k + 1) }
  let p := s.proc k i
  let n := s.arrived k
  if n ≤ 2 * c.quota k then
    if c.numTeamPlayers ≤ s.free .player ∧ c.numTeamGoalies ≤ s.free .goalie then
      match k with
      | .player =>
          (s.write k i .formingTeam).setProc k i
            { p with pc := c.callFrom 0, order := n, role := .captain }
      | .goalie =>
          ((s.takeFree .goalie c.numTeamGoalies).write k i .formingTeam).setProc k i
            { p with pc := c.releaseFrom 0, order := n, role := .captain }
    else
      (s.write k i .waitingTeam).setProc k i { p with pc := .leaveCS, order := n, role := .recruit }
  else
    ((s.takeFree k 1).write k i .late).setProc k i
      { p with pc := .leaveCS, ret := 0, order := n, role := .late }

/-- The next step of process `i` of kind `k`; `none` when it blocks or has finished. -/
def step (c : Config) (s : State) (k : Kind) (i : Nat) : Option State :=
  let p := s.proc k i
  match p.pc with
  | .arrive =>
      if 0 < s.mutex then some ({ s with mutex := s.mutex - 1 }.goto k i .arriveCS) else none
  | .arriveCS =>
      some ({ s.write k i .arriving with mutex := s.mutex + 1 }.goto k i .constituteTeam)
  | .constituteTeam =>
      if 0 < s.mutex then some ({ s with mutex := s.mutex - 1 }.goto k i .constituteCS)
      else none
  | .constituteCS => some (constitute c s k i)
  | .callPlayer j =>
      match k with
      | .player => some ((s.callTeam .player).goto k i (.awaitPlayer j))
      | .goalie => none
  | .awaitPlayer j =>
      match k with
      | .player =>
          if 0 < s.playerRegistered then
            some ({ s with playerRegistered := s.playerRegistered - 1 }.goto k i
              (c.callFrom (j + 1)))
          else none
      | .goalie => none
  | .callGoalie =>
      match k with
      | .player =>
          some (((s.takeFree .player c.numTeamPlayers).callTeam .goalie).goto k i .awaitGoalie)
      | .goalie => none
  | .awaitGoalie =>
      match k with
      | .player =>
          if 0 < s.playerRegistered then
            some ({ s with playerRegistered := s.playerRegistered - 1 }.goto k i .closeTeam)
          else none
      | .goalie => none
  | .releasePlayer j =>
      match k with
      | .player => none
      | .goalie => some ((s.callTeam .player).goto k i (c.releaseFrom (j + 1)))
  | .collectPlayer j =>
      match k with
      | .player => none
      | .goalie =>
          if 0 < s.playerRegistered then
            some ({ s with playerRegistered := s.playerRegistered - 1 }.goto k i
              (c.collectFrom (j + 1)))
          else none
  | .closeTeam =>
      match k with
      | .player =>
          some ({ s.takeFree .goalie c.numTeamGoalies with teamId := s.teamId + 1 }.setProc k i
            { p with pc := .leaveCS, ret := s.teamId })
      | .goalie =>
          some ({ s.takeFree .player c.numTeamPlayers with teamId := s.teamId + 1 }.setProc k i
            { p with pc := .leaveCS, ret := s.teamId })
  | .leaveCS => some ({ s with mutex := s.mutex + 1 }.goto k i .dispatch)
  | .dispatch =>
      some (s.goto k i
        (match s.stat k i with
          | .waitingTeam => .waitTeam
          | .formingTeam => .signalReferee
          | _ => .returned))
  | .waitTeam =>
      if 0 < s.waitTeam k then
        some ({ s with waitTeam := Function.update s.waitTeam k (s.waitTeam k - 1) }.goto k i
          .readTeamId)
      else none
  | .readTeamId => some (s.setProc k i { p with pc := .register, ret := s.teamId })
  | .register =>
      some ({ s with playerRegistered := s.playerRegistered + 1 }.goto k i .returned)
  | .signalReferee =>
      some ({ s with refereeWaitTeams := s.refereeWaitTeams + 1 }.goto k i .returned)
  | .returned => some (s.goto k i (if p.ret ≠ 0 then .waitReferee else .finished))
  | .waitReferee =>
      if 0 < s.mutex then some ({ s with mutex := s.mutex - 1 }.goto k i .waitRefereeCS)
      else none
  | .waitRefereeCS =>
      some ({ s.writes k i (Stat.waitingStart p.ret) with mutex := s.mutex + 1 }.goto k i
        .awaitStart)
  | .awaitStart =>
      if 0 < s.playersWaitReferee then
        some ({ s with playersWaitReferee := s.playersWaitReferee - 1 }.goto k i .playUntilEnd)
      else none
  | .playUntilEnd =>
      if 0 < s.mutex then some ({ s with mutex := s.mutex - 1 }.goto k i .playCS) else none
  | .playCS =>
      some ({ s.writes k i (Stat.playing p.ret) with
                playing := s.playing + 1, mutex := s.mutex + 1 }.goto k i .awaitEnd)
  | .awaitEnd =>
      if 0 < s.playersWaitEnd then
        some ({ s with playersWaitEnd := s.playersWaitEnd - 1 }.goto k i .finished)
      else none
  | .finished => none

/-- The agents of an interleaving: a process of the pools, or the referee. -/
inductive Act where
  /-- Process `i` of kind `k` takes its next step. -/
  | proc (k : Kind) (i : Nat)
  /-- The referee: `semUp(playersWaitReferee)`. -/
  | startMatch
  /-- The referee: `semUp(playersWaitEnd)`. -/
  | endMatch
  deriving DecidableEq, Repr

/-- One action of the whole system; processes outside the pools do not exist. -/
def act (c : Config) (s : State) : Act → Option State
  | .proc k i => if i < c.pool k then step c s k i else none
  | .startMatch => some { s with playersWaitReferee := s.playersWaitReferee + 1 }
  | .endMatch => some { s with playersWaitEnd := s.playersWaitEnd + 1 }

/-- The steps up to the return of `xConstituteTeam`. -/
def PC.beforeReturn : PC → Bool
  | .returned | .waitReferee | .waitRefereeCS | .awaitStart | .playUntilEnd | .playCS
  | .awaitEnd | .finished => false
  | _ => true

/-- One action of the formation system: a process that has not yet returned from
`xConstituteTeam` takes its next step. -/
def formAct (c : Config) (s : State) : Act → Option State
  | .proc k i => if i < c.pool k ∧ (s.proc k i).pc.beforeReturn then step c s k i else none
  | _ => none

/-- A step of the whole system. -/
def Step (c : Config) (s s' : State) : Prop := ∃ a, act c s a = some s'

/-- A step of the formation system. -/
def FormStep (c : Config) (s s' : State) : Prop := ∃ a, formAct c s a = some s'

/-- The states some interleaving reaches. -/
def Reachable (c : Config) (s : State) : Prop :=
  ∃ stat₀, Relation.ReflTransGen (Step c) (init stat₀) s

/-- The states some interleaving of the formation system reaches. -/
def FormReachable (c : Config) (s : State) : Prop :=
  ∃ stat₀, Relation.ReflTransGen (FormStep c) (init stat₀) s

/-- The actions of a fixed schedule, in order. -/
def run (c : Config) (s : State) : List Act → Option State
  | [] => some s
  | a :: as =>
      match act c s a with
      | some s' => run c s' as
      | none => none

lemma formAct_act {c : Config} {s s' : State} {a : Act} (h : formAct c s a = some s') :
    act c s a = some s' := by
  cases a with
  | proc k i =>
      simp only [formAct] at h
      split at h
      · simp only [act, if_pos (And.left ‹_›), h]
      · cases h
  | startMatch => cases h
  | endMatch => cases h

/-- The formation system is part of the whole one. -/
lemma FormReachable.reachable {c : Config} {s : State} (h : FormReachable c s) :
    Reachable c s := by
  obtain ⟨stat₀, h⟩ := h
  exact ⟨stat₀, h.mono fun _ _ ⟨a, ha⟩ => ⟨a, formAct_act ha⟩⟩

lemma Reachable.step {c : Config} {s s' : State} (h : Reachable c s) (hs : Step c s s') :
    Reachable c s' :=
  let ⟨stat₀, h⟩ := h
  ⟨stat₀, h.tail hs⟩

lemma FormReachable.step {c : Config} {s s' : State} (h : FormReachable c s)
    (hs : FormStep c s s') : FormReachable c s' :=
  let ⟨stat₀, h⟩ := h
  ⟨stat₀, h.tail hs⟩

lemma run_reachable {c : Config} {s s' : State} :
    ∀ {as : List Act}, run c s as = some s' → Reachable c s → Reachable c s'
  | [], h, hs => by cases h; exact hs
  | a :: as, h, hs => by
      simp only [run] at h
      split at h
      · exact run_reachable h (hs.step ⟨a, ‹_›⟩)
      · cases h

/-- A fixed schedule from a start state whose end state has the property `p` shows a
reachable state with `p`. -/
lemma run_witness (c : Config) (stat₀ : Kind → Nat → Stat) (as : List Act) {p : State → Prop}
    [DecidablePred p] (h : (run c (init stat₀) as).any (fun s => decide (p s)) = true) :
    ∃ s, Reachable c s ∧ p s := by
  cases hr : run c (init stat₀) as with
  | none => simp [hr] at h
  | some s => exact ⟨s, run_reachable hr ⟨stat₀, .refl⟩, by simpa [hr] using h⟩

/-- Goalie 0 arrives and waits for a call; player 0 arrives, decides to form team 1 and
calls the goalie; the goalie reads the id and registers; the player closes the team, raises
`refereeWaitTeams` and returns. -/
def firstTeam : List Act :=
  List.replicate 6 (.proc .goalie 0) ++ List.replicate 5 (.proc .player 0) ++
    List.replicate 3 (.proc .goalie 0) ++ List.replicate 5 (.proc .player 0)

end SoccerGame
