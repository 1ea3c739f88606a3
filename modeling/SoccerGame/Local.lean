import SoccerGame.View

/-!
What holds of one process on its own, whatever the others do.

* `Proc.written`: the values a process at `p` has written to its own `xStat[id]`;
* `Fits`, `Good`: the program counter, the branch, `ret` and the arrival rank agree: a
  late process has `ret = 0` and a rank past `2 * quota`, a captain holds its team id from
  `ret = teamId++` on, a recruit from its read of `teamId` on, and the loop indices stay
  below their bounds;
* `Recorded`: the status entry and its history are what the process wrote.
-/

namespace SoccerGame

/-- The values a process at `p` has written to `xStat[id]`, oldest first. -/
def Proc.written (p : Proc) : List Stat :=
  match p.pc with
  | .arrive | .arriveCS => []
  | .constituteTeam | .constituteCS => [.arriving]
  | .awaitStart | .playUntilEnd | .playCS => [.arriving, p.role.stat] ++ Stat.waitingStart p.ret
  | .awaitEnd | .finished =>
      [.arriving, p.role.stat] ++ Stat.waitingStart p.ret ++ Stat.playing p.ret
  | _ => [.arriving, p.role.stat]

/-- Where a process of kind `k` at its step can be, given its branch and `ret`. -/
def Fits (c : Config) (k : Kind) (p : Proc) : Prop :=
  match p.pc with
  | .arrive | .arriveCS | .constituteTeam | .constituteCS => p.role = .undecided ∧ p.ret = 0
  | .callPlayer j | .awaitPlayer j =>
      k = .player ∧ p.role = .captain ∧ p.ret = 0 ∧ j + 1 < c.numTeamPlayers
  | .callGoalie | .awaitGoalie => k = .player ∧ p.role = .captain ∧ p.ret = 0
  | .releasePlayer j | .collectPlayer j =>
      k = .goalie ∧ p.role = .captain ∧ p.ret = 0 ∧ j < c.numTeamPlayers
  | .closeTeam => p.role = .captain ∧ p.ret = 0
  | .leaveCS | .dispatch => p.role ≠ .undecided ∧ (p.ret = 0 ↔ p.role ≠ .captain)
  | .waitTeam | .readTeamId => p.role = .recruit ∧ p.ret = 0
  | .register => p.role = .recruit ∧ p.ret ≠ 0
  | .signalReferee => p.role = .captain ∧ p.ret ≠ 0
  | .returned | .finished => p.role ≠ .undecided ∧ (p.ret = 0 ↔ p.role = .late)
  | .waitReferee | .waitRefereeCS | .awaitStart | .playUntilEnd | .playCS | .awaitEnd =>
      p.role ≠ .undecided ∧ p.role ≠ .late ∧ p.ret ≠ 0

/-- A good process of kind `k`: `ret` is a team id or 0, the branch is taken exactly when
a rank is given, late exactly past `2 * quota`, and the step fits. -/
def Good (c : Config) (k : Kind) (p : Proc) : Prop :=
  p.ret ≤ 2 ∧ (p.role = .undecided ↔ p.order = 0) ∧ (p.role = .late ↔ 2 * c.quota k < p.order) ∧
    Fits c k p

/-- The status array and the history agree with `written`: the history is what the
process wrote, and the array holds its last write. -/
def Recorded (p : Proc) (st : Stat) (h : List Stat) : Prop :=
  h = p.written ∧ (h = [] ∨ h.getLast? = some st)

/-- A process before `arrive` is good. -/
lemma good_start (c : Config) (k : Kind) : Good c k Proc.start := by
  simp [Good, Fits, Proc.start]

/-- A move that keeps the branch, `ret` and rank keeps a good process good where it fits. -/
lemma Good.goto {c : Config} {k : Kind} {p : Proc} {q : PC} (hg : Good c k p)
    (hq : Fits c k { p with pc := q }) : Good c k { p with pc := q } :=
  ⟨hg.1, hg.2.1, hg.2.2.1, hq⟩

namespace Recorded

variable {p q : Proc} {st : Stat} {h vs : List Stat}

/-- A move that writes nothing. -/
lemma goto (hr : Recorded p st h) (hq : q.written = p.written) : Recorded q st h :=
  ⟨hr.1.trans hq.symm, hr.2⟩

/-- A move that writes `vs`: the history grows by `vs` and the entry keeps the last. -/
lemma writes (hr : Recorded p st h) (hq : q.written = p.written ++ vs) :
    Recorded q (vs.getLast?.getD st) (h ++ vs) := by
  refine ⟨by rw [hr.1, hq], ?_⟩
  cases hv : vs.getLast? with
  | none => simpa [List.getLast?_eq_none_iff.mp hv] using hr.2
  | some v => exact .inr (by simp [List.getLast?_append, hv])

/-- The entry holds the last value written. -/
lemma stat_eq {l : List Stat} {v : Stat} (hr : Recorded p st h) (hw : p.written = l ++ [v]) :
    st = v := by
  obtain ⟨rfl, hh⟩ := hr
  rw [hw] at hh
  exact (by simpa using hh : v = st).symm

end Recorded

end SoccerGame
