import SoccerGame.Ledger

/-!
The invariant of the whole system, and the frame of one step.

* `Inv`: the ledger, `mutex` against the processes in a critical region, every process
  `Good` and `Recorded`, and the arrival ranks: each at most `xArrived`, no two alike;
* `inv_init`: the start state;
* `Inv.of_step`: the part of preservation every step shares. A step of process `i` of kind
  `k` changes that process, possibly its own status entry, and some counters; the other
  processes and status entries stay, so only the new process and the ledger are left to
  check;
* `Inv.goto`: a move of a process that keeps its view and every counter the ledger reads
  keeps the invariant.
-/

namespace SoccerGame

/-- The invariant. -/
structure Inv (c : Config) (s : State) : Prop where
  ledger : Ledger c s
  mutex : s.mutex + s.holders c = 1
  good : ∀ k i, i < c.pool k → Good c k (s.proc k i)
  recorded : ∀ k i, i < c.pool k → Recorded (s.proc k i) (s.stat k i) (s.hist k i)
  rank_le : ∀ k i, i < c.pool k → (s.proc k i).order ≤ s.arrived k
  rank_inj : ∀ k i j, i < c.pool k → j < c.pool k → (s.proc k i).order = (s.proc k j).order →
    (s.proc k i).order ≠ 0 → i = j

lemma inv_init (c : Config) (hN : 1 ≤ c.numTeamPlayers) (stat₀ : Kind → Nat → Stat) :
    Inv c (init stat₀) where
  ledger := ledger_init c hN stat₀
  mutex := by simp [State.holders, total, init, Proc.start, PC.inCS, sumBelow_const]
  good _ _ _ := good_start c _
  recorded _ _ _ := ⟨rfl, .inl rfl⟩
  rank_le _ _ _ := Nat.zero_le _
  rank_inj _ _ _ _ _ _ h := absurd rfl h

lemma view_setProc (s : State) (k : Kind) (i : Nat) (p : Proc) :
    (s.setProc k i p).view = upd s.view k i p.view := by
  funext k' j
  simp only [State.view, State.setProc_proc, upd]
  split <;> rfl

variable {c : Config} {s s₀ s' : State} {k : Kind} {i : Nat} {p : Proc}

/-- **The frame of a step.** Process `i` of kind `k` becomes `p`, over a state `s₀` that
has the old processes, the old status entries but its own, and no fewer arrivals; if the
new process is good and recorded, its rank is fresh or kept, `mutex` balances and the
ledger holds, the invariant holds. -/
lemma Inv.of_step (hI : Inv c s) (hi : i < c.pool k) (hs' : s' = s₀.setProc k i p)
    (h₀ : s₀.proc = s.proc) (harr : ∀ k, s.arrived k ≤ s₀.arrived k)
    (hst : ∀ k' j, ¬ (k' = k ∧ j = i) → s₀.stat k' j = s.stat k' j ∧ s₀.hist k' j = s.hist k' j)
    (hm : s₀.mutex + (if p.pc.inCS then 1 else 0) =
      s.mutex + if (s.proc k i).pc.inCS then 1 else 0)
    (hgood : Good c k p) (hrec : Recorded p (s₀.stat k i) (s₀.hist k i))
    (hrank : p.order ≤ s₀.arrived k ∧
      (p.order = (s.proc k i).order ∨ ∀ j < c.pool k, (s.proc k j).order < p.order))
    (hL : Ledger c s') : Inv c s' := by
  subst hs'
  have hp : ∀ k' j, (s₀.setProc k i p).proc k' j = if k' = k ∧ j = i then p else s.proc k' j :=
    fun k' j => by rw [State.setProc_proc, h₀]
  refine ⟨hL, ?_, fun k' j hj => ?_, fun k' j hj => ?_, fun k' j hj => ?_, ?_⟩
  · have h1 := hI.mutex
    have e1 := total_upd_cast (v := s.proc) (a := p) (l := .player)
      (f := fun q : Proc => if q.pc.inCS then 1 else 0) hi
    have e2 := total_upd_cast (v := s.proc) (a := p) (l := .goalie)
      (f := fun q : Proc => if q.pc.inCS then 1 else 0) hi
    simp only [State.holders, State.setProc_proc_eq, h₀] at h1 ⊢
    show s₀.mutex + _ = 1
    cases k <;> simp only [if_true, reduceCtorEq, if_false] at e1 e2 <;> omega
  · rw [hp]
    split
    · next h => obtain ⟨rfl, rfl⟩ := h; exact hgood
    · exact hI.good k' j hj
  · show Recorded _ (s₀.stat k' j) (s₀.hist k' j)
    rw [hp]
    split
    · next h => obtain ⟨rfl, rfl⟩ := h; exact hrec
    · next h => rw [(hst k' j h).1, (hst k' j h).2]; exact hI.recorded k' j hj
  · show _ ≤ s₀.arrived k'
    rw [hp]
    split
    · next h => obtain ⟨rfl, rfl⟩ := h; exact hrank.1
    · exact (hI.rank_le k' j hj).trans (harr k')
  · intro k' j j' hj hj' he hne
    simp only [hp] at he hne
    have hfresh : ∀ j < c.pool k, j ≠ i → p.order ≠ 0 → (s.proc k j).order ≠ p.order :=
      fun j hj hji h0 h => by
        rcases hrank.2 with h' | h'
        · exact hji (hI.rank_inj k j i hj hi (h.trans h') (h ▸ h0))
        · exact absurd (h' j hj) (by omega)
    by_cases h1 : k' = k ∧ j = i
    · obtain ⟨rfl, rfl⟩ := h1
      by_cases h2 : j' = j
      · exact h2.symm
      · simp only [and_self, if_true, h2, and_false, if_false] at he hne
        exact absurd he.symm (hfresh j' hj' h2 hne)
    · by_cases h2 : k' = k ∧ j' = i
      · obtain ⟨rfl, rfl⟩ := h2
        have hji : j ≠ j' := fun h => h1 ⟨rfl, h⟩
        simp only [hji, and_false, if_false, and_self, if_true] at he hne
        exact absurd he (hfresh j hj hji (he ▸ hne))
      · simp only [h1, h2, if_false] at he hne
        exact hI.rank_inj k' j j' hj hj' he hne

/-- **Quiet moves.** Process `i` of kind `k` moving on to `q`, over a state `s₀` that
differs from `s` only in `mutex`, in counters the ledger does not read and in the process's
own status entry, keeps the invariant if the move keeps its view. -/
lemma Inv.goto (hI : Inv c s) (hi : i < c.pool k) {q : PC} (h₀ : s₀.proc = s.proc)
    (ha : s₀.arrived = s.arrived) (hf : s₀.free = s.free) (ht : s₀.teamId = s.teamId)
    (hw : s₀.waitTeam = s.waitTeam) (hr : s₀.playerRegistered = s.playerRegistered)
    (hrw : s₀.refereeWaitTeams = s.refereeWaitTeams)
    (hst : ∀ k' j, ¬ (k' = k ∧ j = i) → s₀.stat k' j = s.stat k' j ∧ s₀.hist k' j = s.hist k' j)
    (hv : q.canon (s.proc k i).role = (s.proc k i).pc.canon (s.proc k i).role)
    (hm : s₀.mutex + (if q.inCS then 1 else 0) =
      s.mutex + if (s.proc k i).pc.inCS then 1 else 0)
    (hgood : Fits c k { s.proc k i with pc := q })
    (hrec : Recorded { s.proc k i with pc := q } (s₀.stat k i) (s₀.hist k i)) :
    Inv c (s₀.goto k i q) := by
  have hs : s₀.goto k i q = s₀.setProc k i { s.proc k i with pc := q } := by
    rw [State.goto, h₀]
  refine hI.of_step hi hs h₀ (fun k => ha ▸ le_rfl) hst hm ((hI.good k i hi).goto hgood) hrec
    ⟨ha ▸ hI.rank_le k i hi, .inl rfl⟩ ?_
  rw [hs]
  refine hI.ledger.congr ?_ ha hf ht hw hr hrw
  rw [view_setProc]
  funext k' j
  simp only [upd, State.view, h₀]
  split
  · next h => obtain ⟨rfl, rfl⟩ := h; simp only [Proc.view, hv]
  · rfl

end SoccerGame
