import SoccerGame.Count

/-!
What one step of a process may change, and when it cannot move.

* `PC.succs`: the control flow of the two programs, the steps that may follow a step;
* `step_inv`: the inversion of `step`. A step of process `i` of kind `k` moves that process
  along its control flow and leaves every other process, and every other status entry and
  its history, as they were;
* `act_frame`: so only process `i` of kind `k` ever writes `xStat[i]` of its kind;
* `State.blocked`, `step_eq_none_iff`: a process cannot move exactly when the semaphore it
  waits on is 0, or it has finished;
* `sum_step`, `sum_lt_of_step`: a step changes a sum over all processes by its own
  process's term only;
* `PC.left`, `formMeasure_lt`: every step of the formation system shortens what is left of
  some process's way to the return of `xConstituteTeam`, so every run of it is finite.
-/

namespace SoccerGame

/-! ### Control flow -/

/-- The steps that may follow `q`. -/
def PC.succs (c : Config) : PC → List PC
  | .arrive => [.arriveCS]
  | .arriveCS => [.constituteTeam]
  | .constituteTeam => [.constituteCS]
  | .constituteCS => [c.callFrom 0, c.releaseFrom 0, .leaveCS]
  | .callPlayer j => [.awaitPlayer j]
  | .awaitPlayer j => [c.callFrom (j + 1)]
  | .callGoalie => [.awaitGoalie]
  | .awaitGoalie => [.closeTeam]
  | .releasePlayer j => [c.releaseFrom (j + 1)]
  | .collectPlayer j => [c.collectFrom (j + 1)]
  | .closeTeam => [.leaveCS]
  | .leaveCS => [.dispatch]
  | .dispatch => [.waitTeam, .signalReferee, .returned]
  | .waitTeam => [.readTeamId]
  | .readTeamId => [.register]
  | .register => [.returned]
  | .signalReferee => [.returned]
  | .returned => [.waitReferee, .finished]
  | .waitReferee => [.waitRefereeCS]
  | .waitRefereeCS => [.awaitStart]
  | .awaitStart => [.playUntilEnd]
  | .playUntilEnd => [.playCS]
  | .playCS => [.awaitEnd]
  | .awaitEnd => [.finished]
  | .finished => []

variable {c : Config} {s s' : State} {k : Kind} {i : Nat}

/-- What a step leaves alone: every other process, status entry and history. -/
def State.Frame (s s' : State) (k : Kind) (i : Nat) : Prop :=
  ∀ k' j, ¬ (k' = k ∧ j = i) →
    s'.proc k' j = s.proc k' j ∧ s'.stat k' j = s.stat k' j ∧ s'.hist k' j = s.hist k' j

/-- A state `s₀` that differs from `s` only in counters, semaphores and the entry of `k`,
`i`, with process `i` of kind `k` then set, is in the frame of `s`. -/
lemma State.frame_setProc {s₀ : State} {p : Proc} (h₀ : s₀.proc = s.proc)
    (hst : ∀ k' j, ¬ (k' = k ∧ j = i) → s₀.stat k' j = s.stat k' j ∧ s₀.hist k' j = s.hist k' j) :
    State.Frame s (s₀.setProc k i p) k i := fun k' j h =>
  ⟨by simp only [State.setProc_proc, h, if_false, h₀], hst k' j h⟩

lemma State.write_frame (s : State) (v : Stat) :
    ∀ k' j, ¬ (k' = k ∧ j = i) →
      (s.write k i v).stat k' j = s.stat k' j ∧ (s.write k i v).hist k' j = s.hist k' j :=
  fun k' j h => by simp only [State.write_stat, State.write_hist, h, if_false, and_self]

lemma State.writes_frame (s : State) (vs : List Stat) :
    ∀ k' j, ¬ (k' = k ∧ j = i) →
      (s.writes k i vs).stat k' j = s.stat k' j ∧ (s.writes k i vs).hist k' j = s.hist k' j :=
  fun k' j h => by simp only [State.writes_stat, State.writes_hist, h, if_false, and_self]

/-- The decision moves the process to one of its three branches. -/
lemma constitute_inv (c : Config) (s : State) (k : Kind) (i : Nat) :
    ((constitute c s k i).proc k i).pc ∈ PC.succs c .constituteCS ∧
      State.Frame s (constitute c s k i) k i := by
  simp only [constitute]
  split_ifs
  · cases k
    · exact ⟨by simp [PC.succs], State.frame_setProc rfl (State.write_frame _ _)⟩
    · exact ⟨by simp [PC.succs], State.frame_setProc rfl (State.write_frame _ _)⟩
  · exact ⟨by simp [PC.succs], State.frame_setProc rfl (State.write_frame _ _)⟩
  · exact ⟨by simp [PC.succs], State.frame_setProc rfl (State.write_frame _ _)⟩

/-- **The inversion of a step**: process `i` of kind `k` moves along its control flow, and
nothing else of any other process changes. -/
theorem step_inv (h : step c s k i = some s') :
    (s'.proc k i).pc ∈ (s.proc k i).pc.succs c ∧ State.Frame s s' k i := by
  have hr : ∀ k' j, ¬ (k' = k ∧ j = i) → s.stat k' j = s.stat k' j ∧ s.hist k' j = s.hist k' j :=
    fun _ _ _ => ⟨rfl, rfl⟩
  cases hpc : (s.proc k i).pc
  case constituteCS =>
    simp only [step, hpc, Option.some.injEq] at h
    subst h
    exact constitute_inv c s k i
  all_goals
    simp only [step, hpc] at h
    (try split at h) <;> (try split at h) <;> simp only [Option.some.injEq, reduceCtorEq] at h <;>
      subst h
  all_goals first
    | exact ⟨by simp [PC.succs, State.goto], State.frame_setProc rfl hr⟩
    | exact ⟨by simp [PC.succs, State.goto], State.frame_setProc rfl (State.write_frame s _)⟩
    | exact ⟨by simp [PC.succs, State.goto], State.frame_setProc rfl (State.writes_frame s _)⟩

/-- A step leaves the others alone: the processes are the old ones but process `i` of kind
`k`. -/
lemma State.Frame.proc_eq (h : State.Frame s s' k i) : s'.proc = upd s.proc k i (s'.proc k i) := by
  funext k' j
  simp only [upd]
  split
  · next hj => obtain ⟨rfl, rfl⟩ := hj; rfl
  · next hj => exact (h k' j hj).1

/-- When a process of kind `k` at `q` cannot move in `s`: the semaphore it waits on is 0,
it is at a captain's step of the other program, or it has finished. -/
def State.blocked (s : State) (k : Kind) : PC → Prop
  | .arrive | .constituteTeam | .waitReferee | .playUntilEnd => s.mutex = 0
  | .callPlayer _ | .callGoalie => k = .goalie
  | .awaitPlayer _ | .awaitGoalie => k = .goalie ∨ s.playerRegistered = 0
  | .releasePlayer _ => k = .player
  | .collectPlayer _ => k = .player ∨ s.playerRegistered = 0
  | .waitTeam => s.waitTeam k = 0
  | .awaitStart => s.playersWaitReferee = 0
  | .awaitEnd => s.playersWaitEnd = 0
  | .finished => True
  | _ => False

/-- **A step is refused exactly when the process is blocked.** -/
theorem step_eq_none_iff : step c s k i = none ↔ s.blocked k (s.proc k i).pc := by
  cases hpc : (s.proc k i).pc <;> cases k <;> simp [step, hpc, State.blocked]

/-! ### Termination of the formation -/

/-- An upper bound on the steps a process at `q` takes until `xConstituteTeam` returns;
the captains' loops count down from `NUMTEAMPLAYERS`. -/
def PC.left (c : Config) : PC → Nat
  | .arrive => 2 * c.numTeamPlayers + 14
  | .arriveCS => 2 * c.numTeamPlayers + 13
  | .constituteTeam => 2 * c.numTeamPlayers + 12
  | .constituteCS => 2 * c.numTeamPlayers + 11
  | .callPlayer j => 2 * (c.numTeamPlayers - j) + 10
  | .awaitPlayer j => 2 * (c.numTeamPlayers - j) + 9
  | .callGoalie => 8
  | .awaitGoalie => 7
  | .releasePlayer j => c.numTeamPlayers + (c.numTeamPlayers - j) + 8
  | .collectPlayer j => (c.numTeamPlayers - j) + 7
  | .closeTeam => 6
  | .leaveCS => 5
  | .dispatch => 4
  | .waitTeam => 3
  | .readTeamId => 2
  | .register | .signalReferee => 1
  | _ => 0

/-- Every step before the return shortens what is left. -/
lemma PC.left_lt {q q' : PC} (hq : q.beforeReturn) (h : q' ∈ q.succs c) :
    q'.left c < q.left c := by
  cases q <;> simp only [PC.beforeReturn, PC.succs, List.mem_cons, List.mem_singleton,
    List.not_mem_nil, or_false, Bool.false_eq_true] at hq h
  all_goals
    rcases h with rfl | rfl | rfl <;>
      simp only [PC.left, Config.callFrom, Config.releaseFrom, Config.collectFrom] <;>
      (try split_ifs) <;> (try simp only [PC.left]) <;> omega

/-- A step of process `i` of kind `k` changes a sum over all processes by that process's
term only. -/
lemma sum_step (f : Proc → Nat) (h : step c s k i = some s') (hi : i < c.pool k) :
    total c s'.proc .player f + total c s'.proc .goalie f + f (s.proc k i) =
      total c s.proc .player f + total c s.proc .goalie f + f (s'.proc k i) := by
  have ep := total_upd_cast (v := s.proc) (a := s'.proc k i) (l := .player) (f := f) hi
  have eg := total_upd_cast (v := s.proc) (a := s'.proc k i) (l := .goalie) (f := f) hi
  rw [← (step_inv h).2.proc_eq] at ep eg
  cases k <;> simp only [if_true, reduceCtorEq, if_false] at ep eg <;> omega

/-- A step that shortens its process's term of a per-step bound shortens the sum. -/
lemma sum_lt_of_step {f : PC → Nat} (h : step c s k i = some s') (hi : i < c.pool k)
    (hf : f (s'.proc k i).pc < f (s.proc k i).pc) :
    total c s'.proc .player (fun p => f p.pc) + total c s'.proc .goalie (fun p => f p.pc) <
      total c s.proc .player (fun p => f p.pc) + total c s.proc .goalie (fun p => f p.pc) := by
  have := sum_step (fun p => f p.pc) h hi
  dsimp only at this
  omega

/-- What is left of the formation: the sum over all processes. -/
def formMeasure (c : Config) (s : State) : Nat :=
  total c s.proc .player (fun p => p.pc.left c) + total c s.proc .goalie (fun p => p.pc.left c)

/-- Every step of the formation system shortens what is left. -/
lemma formMeasure_lt (h : FormStep c s s') : formMeasure c s' < formMeasure c s := by
  obtain ⟨a, ha⟩ := h
  cases a with
  | proc k i =>
      simp only [formAct] at ha
      split at ha
      · next hc => exact sum_lt_of_step ha hc.1 (PC.left_lt hc.2 (step_inv ha).1)
      · cases ha
  | startMatch => cases ha
  | endMatch => cases ha

/-- **The formation terminates**: the formation system has no infinite run. -/
theorem formStep_wellFounded (c : Config) : WellFounded (fun s' s => FormStep c s s') :=
  Subrelation.wf (fun h => formMeasure_lt h) (measure (formMeasure c)).wf

end SoccerGame
