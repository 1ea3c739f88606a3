import SoccerGame.Invariant

/-!
The forming captain. `mutex` admits one process to a critical region at a time and a
captain keeps it from its decision to `ret = teamId++`, so at most one captain forms a
team, and none while another process is in a critical region. The captain's calls,
completed waits and taken quotas are then the whole of the ledger's sums of them, and
the ledger bounds `teamId`.

* `Inv.forming_le`, `Inv.forming_eq_zero`: at most one captain forms, none beside another
  process in a critical region;
* `Inv.others_idle`, `Inv.total_captain`: with a captain forming, every other process is
  no captain at work, and a sum that only captains feed is the captain's term, so the
  calls, completed waits and taken quotas are the captain's (`Inv.calls_eq`, ...);
* `Inv.teamId_le`: `teamId ≤ 3`, and `teamId ≤ 2` while a captain forms.
-/

namespace SoccerGame

@[simp] lemma View.forming_view (p : Proc) :
    View.forming p.view = if p.pc.forming then 1 else 0 := by
  simp [View.forming, Proc.view]

/-- A captain keeps `mutex` while it forms: a process in a critical region is the forming
captain or in another critical step. -/
lemma PC.inCS_split (q : PC) :
    (if q.inCS then 1 else 0) = (if q.forming then 1 else 0) + if q.inCS && !q.forming then 1 else 0 := by
  cases q <;> rfl

variable {c : Config} {s : State} {k k' : Kind} {i j : Nat}

/-- The processes holding `mutex`: the forming captains and the rest. -/
lemma State.holders_split (s : State) :
    s.holders c = s.forming c + (total c s.proc .player (fun p => if p.pc.inCS && !p.pc.forming then 1 else 0) +
      total c s.proc .goalie (fun p => if p.pc.inCS && !p.pc.forming then 1 else 0)) := by
  have h : ∀ k, total c s.proc k (fun p => if p.pc.inCS then 1 else 0) =
      total c s.view k View.forming +
        total c s.proc k (fun p => if p.pc.inCS && !p.pc.forming then 1 else 0) := fun k => by
    rw [show total c s.view k View.forming = total c s.proc k (fun p => View.forming p.view)
      from rfl, ← total_add]
    exact total_congr fun j _ => by rw [View.forming_view, PC.inCS_split]
  simp only [State.holders, State.forming, h]
  omega

/-- **One captain at a time.** -/
lemma Inv.forming_le (hI : Inv c s) : s.forming c ≤ 1 := by
  have := hI.mutex
  rw [State.holders_split] at this
  omega

/-- A process in a critical region that is no captain leaves no captain forming. -/
lemma Inv.forming_eq_zero (hI : Inv c s) (hi : i < c.pool k) (hcs : (s.proc k i).pc.inCS)
    (hf : (s.proc k i).pc.forming = false) : s.forming c = 0 := by
  have h1 := hI.mutex
  have h2 := le_total (v := s.proc) (f := fun p => if p.pc.inCS && !p.pc.forming then 1 else 0) hi
  simp only [hcs, hf, Bool.not_false, Bool.and_self, if_true] at h2
  rw [State.holders_split] at h1
  cases k <;> omega

/-- With a captain forming, no other process is at a captain's step. -/
lemma Inv.others_idle (hI : Inv c s) (hi : i < c.pool k) (hf : (s.proc k i).pc.forming)
    (hj : j < c.pool k') (hne : ¬ (k' = k ∧ j = i)) : (s.proc k' j).pc.forming = false := by
  by_contra hc
  have h1 := hI.forming_le
  have hfi : View.forming (s.view k i) = 1 := by simp [State.view, hf]
  have hfj : View.forming (s.view k' j) = 1 := by simp [State.view, hc]
  simp only [State.forming] at h1
  by_cases hk : k' = k
  · subst hk
    have := add_le_total (f := View.forming) (v := s.view) hi hj fun h => hne ⟨rfl, h.symm⟩
    cases k' <;> omega
  · have e1 := le_total (v := s.view) (f := View.forming) hi
    have e2 := le_total (v := s.view) (f := View.forming) hj
    cases k <;> cases k' <;> first | exact absurd rfl hk | omega

/-- **The captain's sums.** With a captain forming, a sum that only captains feed is the
captain's own term. -/
lemma Inv.total_captain (hI : Inv c s) (hi : i < c.pool k) (hf : (s.proc k i).pc.forming)
    {g : View → Nat} (hg : ∀ v : View, v.phase.forming = false → g v = 0) (k' : Kind) :
    total c s.view k' g = if k' = k then g (s.view k i) else 0 := by
  have hz : ∀ j < c.pool k', ¬ (k' = k ∧ j = i) → g (s.view k' j) = 0 := fun j hj hne =>
    hg _ (by simpa [State.view, Proc.view] using hI.others_idle hi hf hj hne)
  split
  · next h => subst h; exact total_eq_single hi fun j hj hji => hz j hj fun h => hji h.2
  · next h => exact total_eq_zero fun j hj => hz j hj fun h' => h h'.1

/-- A captain's view keeps its step. -/
lemma Proc.view_of_forming {p : Proc} (hf : p.pc.forming) : p.view = ⟨p.pc, p.ret, p.role⟩ := by
  simp [Proc.view, PC.canon_of_forming hf]

/-- With a captain forming, the calls are its calls. -/
lemma Inv.calls_eq (hI : Inv c s) (hi : i < c.pool k) (hf : (s.proc k i).pc.forming)
    (k' : Kind) : s.calls c k' = c.called k (s.proc k i).pc k' := by
  simp only [State.calls, hI.total_captain hi hf (fun v h => called_eq_zero h _ _)]
  cases k <;> simp [State.view, Proc.view_of_forming hf]

/-- With a captain forming, the completed waits are its waits. -/
lemma Inv.acks_eq (hI : Inv c s) (hi : i < c.pool k) (hf : (s.proc k i).pc.forming) :
    s.acks c = c.acked k (s.proc k i).pc := by
  simp only [State.acks, hI.total_captain hi hf (fun v h => acked_eq_zero h _)]
  cases k <;> simp [State.view, Proc.view_of_forming hf]

/-- With a captain forming, the taken quotas are its own. -/
lemma Inv.taken_eq (hI : Inv c s) (hi : i < c.pool k) (hf : (s.proc k i).pc.forming)
    (k' : Kind) : s.taken c k' = took k (s.proc k i).pc k' := by
  simp only [State.taken, hI.total_captain hi hf (fun v h => took_eq_zero h _ _)]
  cases k <;> simp [State.view, Proc.view_of_forming hf]

/-- With no captain forming, a sum that only captains feed is 0. -/
lemma State.total_eq_zero_of_idle (h : s.forming c = 0) {g : View → Nat}
    (hg : ∀ v : View, v.phase.forming = false → g v = 0) (k : Kind) : total c s.view k g = 0 :=
  total_eq_zero fun j hj => hg _ <| by
    have h0 : total c s.view k View.forming = 0 := by
      simp only [State.forming] at h; cases k <;> omega
    simpa [View.forming] using eq_zero_of_total h0 hj

/-- With no captain forming, no call is counted. -/
lemma State.calls_eq_zero (h : s.forming c = 0) (k' : Kind) : s.calls c k' = 0 := by
  simp only [State.calls, s.total_eq_zero_of_idle h fun v hv => called_eq_zero hv _ _]

/-- With no captain forming, no quota is taken. -/
lemma State.taken_eq_zero (h : s.forming c = 0) (k' : Kind) : s.taken c k' = 0 := by
  simp only [State.taken, s.total_eq_zero_of_idle h fun v hv => took_eq_zero hv _ _]

/-- With no captain forming, no wait is counted. -/
lemma State.acks_eq_zero (h : s.forming c = 0) : s.acks c = 0 := by
  simp only [State.acks, s.total_eq_zero_of_idle h fun v hv => acked_eq_zero hv _]

/-- `teamId` starts at 1 and only grows. -/
lemma Inv.one_le_teamId (hI : Inv c s) : 1 ≤ s.teamId := by
  have := hI.ledger.closed; omega

/-- **The bound on team ids.** `teamId ≤ 3`; while a captain forms, `teamId ≤ 2`: the
player ledger counts `NUMTEAMPLAYERS` admitted players per closed team, at most
`2 * NUMTEAMPLAYERS` players are admitted, and a forming captain found a full quota free. -/
lemma Inv.teamId_le (hI : Inv c s) (hN : 1 ≤ c.numTeamPlayers) :
    s.teamId ≤ 3 ∧ (1 ≤ s.forming c → s.teamId ≤ 2) := by
  have hfree := hI.ledger.player.free
  have hadm := hI.ledger.player.admitted
  simp only [Config.quota_player, State.reserved] at hfree hadm
  have h2 : c.numTeamPlayers * (s.teamId - 1) ≤ c.numTeamPlayers * 2 := by omega
  refine ⟨by have := Nat.le_of_mul_le_mul_left h2 hN; omega, fun hf => ?_⟩
  have hb := (hI.ledger.busy (by have := hI.forming_le; omega)).1
  simp only [Config.quota_player, State.reserved] at hb
  have h1 : c.numTeamPlayers * (s.teamId - 1) ≤ c.numTeamPlayers * 1 := by omega
  have := Nat.le_of_mul_le_mul_left h1 hN
  omega

end SoccerGame
