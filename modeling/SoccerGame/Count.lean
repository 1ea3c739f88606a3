import SoccerGame.Step
import Mathlib.Data.Int.Defs
import Mathlib.Order.Basic

/-!
Sums over the processes of one kind. The shared counters of `sh->fSt` and the semaphore
values are tied to the processes by equations between such sums (`Ledger.lean`); a step
of one process changes each sum by that process's own contribution only.

* `total`: the sum of a per-process quantity over the pool of one kind (`sumBelow`);
* `upd`: one process changed; `total_upd`: the sum after the change, its old contribution
  traded for its new one (`total_upd_cast` in `Int`, the form the ledger proofs rewrite
  with);
* `le_total`, `add_le_total`, `total_eq_zero`: comparisons of sums;
* `exists_of_total_pos`, `exists_of_sum_pos`: a positive count has a process in it.
-/

namespace SoccerGame

variable {α : Type} {c : Config} {k l : Kind} {i : Nat}

/-- `a 0 + … + a (n - 1)`. -/
def sumBelow (a : Nat → Nat) : Nat → Nat
  | 0 => 0
  | n + 1 => sumBelow a n + a n

/-- `f` summed over the processes `0 … pool k - 1` of kind `k`. -/
def total (c : Config) (v : Kind → Nat → α) (k : Kind) (f : α → Nat) : Nat :=
  sumBelow (fun j => f (v k j)) (c.pool k)

/-- The family `v` with the entry of kind `k` and id `i` replaced by `a`. -/
def upd (v : Kind → Nat → α) (k : Kind) (i : Nat) (a : α) : Kind → Nat → α :=
  fun l j => if l = k ∧ j = i then a else v l j

lemma State.setProc_proc_eq (s : State) (p : Proc) : (s.setProc k i p).proc = upd s.proc k i p :=
  rfl

lemma sumBelow_congr {a b : Nat → Nat} :
    ∀ {n : Nat}, (∀ j < n, a j = b j) → sumBelow a n = sumBelow b n
  | 0, _ => rfl
  | n + 1, h => by
      rw [sumBelow, sumBelow, sumBelow_congr fun j hj => h j (by omega), h n (by omega)]

/-- Replacing the term at `i < n` trades its old value for the new one. -/
lemma sumBelow_update {a : Nat → Nat} {v : Nat} :
    ∀ {n : Nat}, i < n → sumBelow (fun j => if j = i then v else a j) n + a i = sumBelow a n + v
  | 0, h => absurd h (Nat.not_lt_zero i)
  | n + 1, h => by
      simp only [sumBelow]
      rcases Nat.lt_succ_iff_lt_or_eq.mp h with h | rfl
      · have ih := sumBelow_update (a := a) (v := v) h
        rw [if_neg (Nat.ne_of_gt h)]
        omega
      · rw [if_pos rfl, sumBelow_congr fun j hj => if_neg (Nat.ne_of_lt hj)]
        omega

lemma single_le_sumBelow {a : Nat → Nat} : ∀ {n : Nat}, i < n → a i ≤ sumBelow a n
  | 0, h => absurd h (Nat.not_lt_zero i)
  | n + 1, h => by
      simp only [sumBelow]
      rcases Nat.lt_succ_iff_lt_or_eq.mp h with h | rfl
      · have := single_le_sumBelow (a := a) h
        omega
      · omega

lemma add_le_sumBelow {a : Nat → Nat} {j : Nat} :
    ∀ {n : Nat}, i < n → j < n → i ≠ j → a i + a j ≤ sumBelow a n
  | 0, h, _, _ => absurd h (Nat.not_lt_zero i)
  | n + 1, hi, hj, hij => by
      simp only [sumBelow]
      rcases Nat.lt_succ_iff_lt_or_eq.mp hi with hi | rfl <;>
        rcases Nat.lt_succ_iff_lt_or_eq.mp hj with hj | rfl
      · have := add_le_sumBelow (a := a) hi hj hij
        omega
      · have := single_le_sumBelow (a := a) hi
        omega
      · have := single_le_sumBelow (a := a) hj
        omega
      · exact absurd rfl hij

lemma sumBelow_add {a b : Nat → Nat} :
    ∀ {n : Nat}, sumBelow (fun j => a j + b j) n = sumBelow a n + sumBelow b n
  | 0 => rfl
  | n + 1 => by
      simp only [sumBelow, sumBelow_add]
      omega

/-- A sum of a constant. -/
lemma sumBelow_const (x : Nat) : ∀ n, sumBelow (fun _ => x) n = n * x
  | 0 => (Nat.zero_mul x).symm
  | n + 1 => by rw [sumBelow, sumBelow_const x n, Nat.succ_mul]

variable {v : Kind → Nat → α} {a : α} {f g : α → Nat}

/-- Sums that agree term by term on the pool are equal. -/
lemma total_congr {β : Type} {w : Kind → Nat → β} {g : β → Nat}
    (h : ∀ j < c.pool k, f (v k j) = g (w k j)) : total c v k f = total c w k g :=
  sumBelow_congr h

/-- **The one-process update**: after process `i` of kind `k` becomes `a`, the sum of `f`
has lost `f` of its old state and gained `f a`. -/
lemma total_upd (hi : i < c.pool k) :
    total c (upd v k i a) k f + f (v k i) = total c v k f + f a := by
  have h := sumBelow_update (a := fun j => f (v k j)) (v := f a) hi
  simpa only [total, upd, true_and, apply_ite f] using h

lemma total_upd_ne (h : l ≠ k) : total c (upd v k i a) l f = total c v l f :=
  total_congr fun j _ => by simp [upd, h]

/-- `total_upd` for either kind, in `Int`. -/
lemma total_upd_cast (hi : i < c.pool k) :
    (total c (upd v k i a) l f : Int) =
      total c v l f + if l = k then (f a : Int) - f (v k i) else 0 := by
  by_cases h : l = k
  · subst h
    have := total_upd (f := f) (a := a) (v := v) hi
    simp only [if_true]
    omega
  · simp [total_upd_ne h, h]

/-- A change that `f` does not see leaves the sum of `f` alone. -/
lemma total_upd_of_eq (h : f a = f (v k i)) : total c (upd v k i a) l f = total c v l f :=
  total_congr fun j _ => by
    simp only [upd]
    split
    · next h' => rw [h'.1, h'.2, h]
    · rfl

lemma le_total (hi : i < c.pool k) : f (v k i) ≤ total c v k f :=
  single_le_sumBelow (a := fun j => f (v k j)) hi

/-- Two terms are at most the sum. -/
lemma add_le_total {j : Nat} (hi : i < c.pool k) (hj : j < c.pool k) (hij : i ≠ j) :
    f (v k i) + f (v k j) ≤ total c v k f :=
  add_le_sumBelow (a := fun j => f (v k j)) hi hj hij

/-- A sum of zeros. -/
lemma total_eq_zero (h : ∀ j < c.pool k, f (v k j) = 0) : total c v k f = 0 := by
  rw [total_congr (w := v) (g := fun _ => 0) h, total, sumBelow_const, Nat.mul_zero]

lemma total_add : total c v k (fun a => f a + g a) = total c v k f + total c v k g :=
  sumBelow_add

/-- A sum whose terms vanish but at `i` is its term at `i`. -/
lemma total_eq_single (hi : i < c.pool k) (h : ∀ j < c.pool k, j ≠ i → f (v k j) = 0) :
    total c v k f = f (v k i) := by
  have e := sumBelow_update (a := fun _ => 0) (v := f (v k i)) hi
  rw [sumBelow_const, Nat.mul_zero, Nat.zero_add, Nat.add_zero] at e
  rw [← e]
  exact sumBelow_congr fun j hj => by by_cases hji : j = i <;> simp [hji, h j hj]

/-- A zero sum has zero terms. -/
lemma eq_zero_of_total (h : total c v k f = 0) (hi : i < c.pool k) : f (v k i) = 0 :=
  Nat.eq_zero_of_le_zero (h ▸ le_total hi)

/-- A positive sum has a positive term. -/
lemma exists_of_total_pos (h : 0 < total c v k f) : ∃ j < c.pool k, 0 < f (v k j) := by
  by_contra hn
  push_neg at hn
  exact absurd (total_eq_zero fun j hj => Nat.le_zero.mp (hn j hj)) (Nat.pos_iff_ne_zero.mp h)

/-- A positive count over both kinds has a positive term. -/
lemma exists_of_sum_pos (h : 0 < total c v .player f + total c v .goalie f) :
    ∃ k, ∃ j < c.pool k, 0 < f (v k j) :=
  if hp : 0 < total c v .player f then ⟨_, exists_of_total_pos hp⟩
  else ⟨.goalie, exists_of_total_pos (by omega)⟩

/-- A sum of ones counts the pool. -/
lemma total_eq_pool (h : ∀ j < c.pool k, f (v k j) = 1) : total c v k f = c.pool k := by
  rw [total_congr (w := v) (g := fun _ => 1) h, total, sumBelow_const, Nat.mul_one]

end SoccerGame
