import SoccerGame.Captain

/-!
The steps that change no counter the ledger reads: taking and giving back `mutex`, the
status writes of `arrive`, `waitReferee` and `playUntilEnd`, the test of `xStat[id]` after
the first critical region, `main`'s test of `team` and the waits on the referee.

* `PC.quiet`: these steps;
* `Inv.step_quiet`: each keeps the invariant.
-/

namespace SoccerGame

/-- The moves that change no counter the ledger reads and keep the view: taking and
giving back `mutex`, the status writes, the test of `xStat[id]`, the referee's gates. -/
def PC.quiet : PC → Bool
  | .arrive | .arriveCS | .constituteTeam | .leaveCS | .dispatch | .returned
  | .waitReferee | .waitRefereeCS | .awaitStart | .playUntilEnd | .playCS | .awaitEnd
  | .finished => true
  | _ => false

variable {c : Config} {s s' : State} {k : Kind} {i : Nat}

/-- **Quiet steps** keep the invariant: the status test sends a recruit to its wait, a
captain to the referee and a late process out, as its branch says. -/
lemma Inv.step_quiet (hI : Inv c s) (hi : i < c.pool k) (hq : (s.proc k i).pc.quiet)
    (h : step c s k i = some s') : Inv c s' := by
  have hg := (hI.good k i hi).2.2.2
  have hr := hI.recorded k i hi
  cases hpc : (s.proc k i).pc <;> simp only [PC.quiet, hpc, Bool.false_eq_true] at hq <;>
    simp only [step, hpc, Option.ite_none_right_eq_some, Option.some.injEq] at h
  case arrive | constituteTeam | waitReferee | playUntilEnd =>
    obtain ⟨hm, rfl⟩ := h
    exact hI.goto hi rfl rfl rfl rfl rfl rfl rfl (fun _ _ _ => ⟨rfl, rfl⟩)
      (by simp [PC.canon, hpc]) (by simp [PC.inCS, hpc]; omega)
      (by simp only [Fits, hpc] at hg ⊢; simp [hg]) (hr.goto (by simp [Proc.written, hpc]))
  case leaveCS =>
    subst h
    exact hI.goto hi rfl rfl rfl rfl rfl rfl rfl (fun _ _ _ => ⟨rfl, rfl⟩)
      (by simp [PC.canon, hpc]) (by simp [PC.inCS, hpc])
      (by simp only [Fits, hpc] at hg ⊢; simp [hg]) (hr.goto (by simp [Proc.written, hpc]))
  case awaitStart | awaitEnd =>
    obtain ⟨hm, rfl⟩ := h
    exact hI.goto hi rfl rfl rfl rfl rfl rfl rfl (fun _ _ _ => ⟨rfl, rfl⟩)
      (by simp [PC.canon, hpc]) (by simp [PC.inCS, hpc])
      (by simp only [Fits, hpc] at hg ⊢; simp [hg]) (hr.goto (by simp [Proc.written, hpc]))
  case arriveCS | waitRefereeCS | playCS =>
    subst h
    exact hI.goto hi rfl rfl rfl rfl rfl rfl rfl (fun k' j h => by simp [h])
      (by simp [PC.canon, hpc]) (by simp [PC.inCS, hpc])
      (by simp only [Fits, hpc] at hg ⊢; simp [hg]) (by simpa using hr.writes (by simp [Proc.written, hpc]))
  case dispatch =>
    subst h
    have hst : (s.proc k i).role.stat = s.stat k i :=
      (hr.stat_eq (l := [.arriving]) (by simp [Proc.written, hpc])).symm
    simp only [Fits, hpc] at hg
    rw [← hst]
    cases hrole : (s.proc k i).role <;> simp [hrole] at hg <;>
      exact hI.goto hi rfl rfl rfl rfl rfl rfl rfl (fun _ _ _ => ⟨rfl, rfl⟩)
        (by simp [PC.canon, hpc, hrole, Role.stat]) (by simp [PC.inCS, hpc, Role.stat])
        (by simp [Fits, hrole, Role.stat, hg]) (hr.goto (by simp [Proc.written, hpc, Role.stat]))
  case returned =>
    subst h
    simp only [Fits, hpc] at hg
    by_cases h0 : (s.proc k i).ret = 0 <;> simp only [h0, ne_eq, not_true, not_false_eq_true,
      if_true, if_false] <;>
      exact hI.goto hi rfl rfl rfl rfl rfl rfl rfl (fun _ _ _ => ⟨rfl, rfl⟩)
        (by simp [PC.canon, hpc]) (by simp [PC.inCS, hpc]) (by simp [Fits, hg.1, ← hg.2, h0])
        (hr.goto (by simp [Proc.written, hpc, h0, Stat.waitingStart, Stat.playing]))
  case finished => cases h

end SoccerGame
