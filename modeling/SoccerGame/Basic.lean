import Mathlib.Logic.Function.Basic

/-!
The data shared by the player and goalie processes of the SoccerGame problem (the player
program, with `playerConstituteTeam`, and `semSharedMemGoalie.c`, with
`goalieConstituteTeam`). The headers `probConst.h`, `probDataStruct.h` and
`sharedDataSync.h` are not among the sources: their constants are parameters here.

* `Config`: `NUMPLAYERS`, `NUMGOALIES`, `NUMTEAMPLAYERS`, `NUMTEAMGOALIES`;
* `Stat`: the values written to `sh->fSt.st.playerStat[id]` and `goalieStat[id]`;
* `PC`: where a process is in `main`'s life cycle `arrive`, `xConstituteTeam`,
  `waitReferee`, `playUntilEnd`. Each constructor is one atomic step: one semaphore
  operation together with the plain code after it, or the one unprotected read of
  `sh->fSt.teamId` a recruit makes;
* `Proc`: a program counter and the local `ret` (`team` in `main`), with two ghost fields
  that record the decision taken in the first critical region;
* `State`: `sh->fSt`, the semaphores of `sh`, every process, and the ghost history of the
  status writes;
* `init`: what the main program leaves behind: `teamId = 1`, `mutex = 1`, every other
  counter and semaphore 0, the status arrays arbitrary.
-/

namespace SoccerGame

/-- The two programs that constitute teams; they run the same life cycle, mirrored. -/
inductive Kind where
  | player
  | goalie
  deriving DecidableEq, Repr

/-- The constants of `probConst.h` the two programs read. -/
structure Config where
  /-- `NUMPLAYERS`: `main` accepts the ids `0 … NUMPLAYERS - 1`. -/
  numPlayers : Nat
  /-- `NUMGOALIES`. -/
  numGoalies : Nat
  /-- `NUMTEAMPLAYERS`: players in a team. -/
  numTeamPlayers : Nat
  /-- `NUMTEAMGOALIES`: goalies in a team. -/
  numTeamGoalies : Nat
  deriving Repr

namespace Config

/-- The ids of kind `k` that `main` accepts are those below `pool k`. -/
def pool (c : Config) : Kind → Nat
  | .player => c.numPlayers
  | .goalie => c.numGoalies

/-- The members of kind `k` a team asks for. -/
def quota (c : Config) : Kind → Nat
  | .player => c.numTeamPlayers
  | .goalie => c.numTeamGoalies

@[simp] lemma pool_player (c : Config) : c.pool .player = c.numPlayers := rfl
@[simp] lemma pool_goalie (c : Config) : c.pool .goalie = c.numGoalies := rfl
@[simp] lemma quota_player (c : Config) : c.quota .player = c.numTeamPlayers := rfl
@[simp] lemma quota_goalie (c : Config) : c.quota .goalie = c.numTeamGoalies := rfl

end Config

/-- Modelled from the spec: the states of a player or goalie, the constants of
`probConst.h` (`ARRIVING`, `WAITING_TEAM`, `FORMING_TEAM`, `LATE`, `WAITING_START_1`, ...). -/
inductive Stat where
  | arriving
  | waitingTeam
  | formingTeam
  | late
  | waitingStart1
  | waitingStart2
  | playing1
  | playing2
  deriving DecidableEq, Repr

/-- `WAITING_START_1` or `WAITING_START_2`, the write of `waitReferee` for `team`; no
write for another team. -/
def Stat.waitingStart : Nat → List Stat
  | 1 => [.waitingStart1]
  | 2 => [.waitingStart2]
  | _ => []

/-- `PLAYING_1` or `PLAYING_2`, the write of `playUntilEnd` for `team`. -/
def Stat.playing : Nat → List Stat
  | 1 => [.playing1]
  | 2 => [.playing2]
  | _ => []

/-- The branch a process took in the first critical region of `xConstituteTeam`: the
tagged decision `Captain | Recruit | Late`, or none yet (ghost). -/
inductive Role where
  | undecided
  | late
  | captain
  | recruit
  deriving DecidableEq, Repr

/-- The status the branch `r` writes. -/
def Role.stat : Role → Stat
  | .undecided => .arriving
  | .late => .late
  | .captain => .formingTeam
  | .recruit => .waitingTeam

/-- The next atomic step of a process. -/
inductive PC where
  /-- `arrive`: `semDown(mutex)`. -/
  | arrive
  /-- `arrive`, in the critical region: `xStat[id] = ARRIVING`, `saveState`,
  `semUp(mutex)`. -/
  | arriveCS
  /-- `xConstituteTeam`: `semDown(mutex)`. -/
  | constituteTeam
  /-- `xConstituteTeam`, in the critical region: the two increments and the three-way
  branch on `xArrived` and the free counters. -/
  | constituteCS
  /-- Player captain, iteration `i` of the loop of line 196: `semUp(playersWaitTeam)`. -/
  | callPlayer (i : Nat)
  /-- Player captain, iteration `i`: `semDown(playerRegistered)`. -/
  | awaitPlayer (i : Nat)
  /-- Player captain after its loop: `playersFree -= NUMTEAMPLAYERS`,
  `semUp(goaliesWaitTeam)`. -/
  | callGoalie
  /-- Player captain: `semDown(playerRegistered)` of line 220. -/
  | awaitGoalie
  /-- Goalie captain, iteration `i` of the loop of line 192: `semUp(playersWaitTeam)`. -/
  | releasePlayer (i : Nat)
  /-- Goalie captain, iteration `i` of the loop of line 201: `semDown(playerRegistered)`. -/
  | collectPlayer (i : Nat)
  /-- Captain: the last free-counter update, `ret = sh->fSt.teamId++`, `saveState`. -/
  | closeTeam
  /-- `semUp(mutex)` at the end of the critical region of `xConstituteTeam`. -/
  | leaveCS
  /-- The test of `xStat[id]` after the critical region. -/
  | dispatch
  /-- Recruit: `semDown(xWaitTeam)`. -/
  | waitTeam
  /-- Recruit: `ret = sh->fSt.teamId`, read outside the critical region. -/
  | readTeamId
  /-- Recruit: `semUp(playerRegistered)`. -/
  | register
  /-- Captain: `semUp(refereeWaitTeams)`. -/
  | signalReferee
  /-- `xConstituteTeam` has returned; `main` tests `team != 0`. -/
  | returned
  /-- `waitReferee`: `semDown(mutex)`. -/
  | waitReferee
  /-- `waitReferee`, in the critical region: `WAITING_START_t`, `saveState`,
  `semUp(mutex)`. -/
  | waitRefereeCS
  /-- `semDown(playersWaitReferee)`. -/
  | awaitStart
  /-- `playUntilEnd`: `semDown(mutex)`. -/
  | playUntilEnd
  /-- `playUntilEnd`, in the critical region: `semUp(playing)`, `PLAYING_t`, `saveState`,
  `semUp(mutex)`. -/
  | playCS
  /-- `semDown(playersWaitEnd)`. -/
  | awaitEnd
  /-- `main` past its life cycle. -/
  | finished
  deriving DecidableEq, Repr

/-- A process: where it is and its local `ret`, which `main` keeps as `team`. -/
structure Proc where
  pc : PC
  ret : Nat
  /-- Ghost: the value of `xArrived` that the process's own increment produced, so the
  process is the `order`-th of its kind to enter `xConstituteTeam`'s critical region;
  0 before it enters. -/
  order : Nat
  /-- Ghost: the branch it took in that critical region. -/
  role : Role
  deriving DecidableEq, Repr

/-- A process before `arrive`. -/
def Proc.start : Proc := ⟨.arrive, 0, 0, .undecided⟩

/-- The shared region `sh` and the processes. The counters and semaphores that come in
a player and a goalie version are functions of `Kind`. -/
structure State where
  /-- `sh->fSt.playersArrived`, `sh->fSt.goaliesArrived`. -/
  arrived : Kind → Nat
  /-- `sh->fSt.playersFree`, `sh->fSt.goaliesFree`. -/
  free : Kind → Nat
  /-- `sh->fSt.teamId`. -/
  teamId : Nat
  /-- `sh->fSt.st.playerStat`, `sh->fSt.st.goalieStat`. -/
  stat : Kind → Nat → Stat
  /-- The semaphore `mutex`. -/
  mutex : Nat
  /-- The semaphores `playersWaitTeam`, `goaliesWaitTeam`. -/
  waitTeam : Kind → Nat
  /-- The semaphore `playerRegistered`, shared by players and goalies. -/
  playerRegistered : Nat
  /-- The semaphore `refereeWaitTeams`. -/
  refereeWaitTeams : Nat
  /-- The semaphore `playersWaitReferee`. -/
  playersWaitReferee : Nat
  /-- The semaphore `playersWaitEnd`. -/
  playersWaitEnd : Nat
  /-- The semaphore `playing`. -/
  playing : Nat
  /-- The process of each kind and id. -/
  proc : Kind → Nat → Proc
  /-- Ghost: every value written to `xStat[id]`, oldest first. -/
  hist : Kind → Nat → List Stat

namespace State

/-- Process `i` of kind `k` becomes `p`. -/
def setProc (s : State) (k : Kind) (i : Nat) (p : Proc) : State :=
  { s with proc := fun k' j => if k' = k ∧ j = i then p else s.proc k' j }

/-- The assignment `xStat[i] = v`, recorded in the history. -/
def write (s : State) (k : Kind) (i : Nat) (v : Stat) : State :=
  { s with
    stat := fun k' j => if k' = k ∧ j = i then v else s.stat k' j
    hist := fun k' j => if k' = k ∧ j = i then s.hist k' j ++ [v] else s.hist k' j }

/-- The writes of a list of values, in order (`waitReferee` writes one value or none):
the entry keeps the last one. -/
def writes (s : State) (k : Kind) (i : Nat) (vs : List Stat) : State :=
  { s with
    stat := fun k' j => if k' = k ∧ j = i then vs.getLast?.getD (s.stat k' j) else s.stat k' j
    hist := fun k' j => if k' = k ∧ j = i then s.hist k' j ++ vs else s.hist k' j }

@[simp] lemma setProc_proc (s : State) (k : Kind) (i : Nat) (p : Proc) (k' : Kind) (j : Nat) :
    (s.setProc k i p).proc k' j = if k' = k ∧ j = i then p else s.proc k' j := rfl

@[simp] lemma setProc_arrived (s : State) (k : Kind) (i : Nat) (p : Proc) :
    (s.setProc k i p).arrived = s.arrived := rfl

@[simp] lemma setProc_free (s : State) (k : Kind) (i : Nat) (p : Proc) :
    (s.setProc k i p).free = s.free := rfl

@[simp] lemma setProc_teamId (s : State) (k : Kind) (i : Nat) (p : Proc) :
    (s.setProc k i p).teamId = s.teamId := rfl

@[simp] lemma setProc_waitTeam (s : State) (k : Kind) (i : Nat) (p : Proc) :
    (s.setProc k i p).waitTeam = s.waitTeam := rfl

@[simp] lemma setProc_playerRegistered (s : State) (k : Kind) (i : Nat) (p : Proc) :
    (s.setProc k i p).playerRegistered = s.playerRegistered := rfl

@[simp] lemma setProc_refereeWaitTeams (s : State) (k : Kind) (i : Nat) (p : Proc) :
    (s.setProc k i p).refereeWaitTeams = s.refereeWaitTeams := rfl

@[simp] lemma setProc_mutex (s : State) (k : Kind) (i : Nat) (p : Proc) :
    (s.setProc k i p).mutex = s.mutex := rfl

@[simp] lemma setProc_stat (s : State) (k : Kind) (i : Nat) (p : Proc) :
    (s.setProc k i p).stat = s.stat := rfl

@[simp] lemma setProc_hist (s : State) (k : Kind) (i : Nat) (p : Proc) :
    (s.setProc k i p).hist = s.hist := rfl

@[simp] lemma setProc_playing (s : State) (k : Kind) (i : Nat) (p : Proc) :
    (s.setProc k i p).playing = s.playing := rfl

@[simp] lemma write_playing (s : State) (k : Kind) (i : Nat) (v : Stat) :
    (s.write k i v).playing = s.playing := rfl

@[simp] lemma writes_playing (s : State) (k : Kind) (i : Nat) (vs : List Stat) :
    (s.writes k i vs).playing = s.playing := rfl

@[simp] lemma write_teamId (s : State) (k : Kind) (i : Nat) (v : Stat) :
    (s.write k i v).teamId = s.teamId := rfl

@[simp] lemma writes_teamId (s : State) (k : Kind) (i : Nat) (vs : List Stat) :
    (s.writes k i vs).teamId = s.teamId := rfl

@[simp] lemma write_stat (s : State) (k : Kind) (i : Nat) (v : Stat) (k' : Kind) (j : Nat) :
    (s.write k i v).stat k' j = if k' = k ∧ j = i then v else s.stat k' j := rfl

@[simp] lemma write_hist (s : State) (k : Kind) (i : Nat) (v : Stat) (k' : Kind) (j : Nat) :
    (s.write k i v).hist k' j = if k' = k ∧ j = i then s.hist k' j ++ [v] else s.hist k' j :=
  rfl

@[simp] lemma writes_stat (s : State) (k : Kind) (i : Nat) (vs : List Stat) (k' : Kind) (j : Nat) :
    (s.writes k i vs).stat k' j =
      if k' = k ∧ j = i then vs.getLast?.getD (s.stat k' j) else s.stat k' j := rfl

@[simp] lemma writes_hist (s : State) (k : Kind) (i : Nat) (vs : List Stat) (k' : Kind) (j : Nat) :
    (s.writes k i vs).hist k' j = if k' = k ∧ j = i then s.hist k' j ++ vs else s.hist k' j :=
  rfl

end State

/-- Modelled from the spec: the state the main program (not among the sources) leaves
before starting the processes: `teamId` starts at 1, `mutex` at 1, every other counter and
semaphore at 0; the initial status arrays are left arbitrary. -/
def init (stat₀ : Kind → Nat → Stat) : State where
  arrived _ := 0
  free _ := 0
  teamId := 1
  stat := stat₀
  mutex := 1
  waitTeam _ := 0
  playerRegistered := 0
  refereeWaitTeams := 0
  playersWaitReferee := 0
  playersWaitEnd := 0
  playing := 0
  proc _ _ := Proc.start
  hist _ _ := []

end SoccerGame
