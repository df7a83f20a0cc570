import Selenese.Poll
import Selenese.Proofs.Within

/-!
# Selenese.Proofs.Poll

When a wait ends.

* `Poll.Succeeds probe s`: an attempt from the state `s` answers yes. `Poll.after probe n s`: the
  state after `n` attempts.
* `Poll.run_of_succeeds`: a wait ends with the first attempt that succeeds, if there is one within
  the limit. `Poll.run_of_fails`: else it gives up after as many attempts as the limit.
-/

namespace Selenese.Poll

variable {σ ε : Type}

def Succeeds (probe : EStateM ε σ Bool) (s : σ) : Prop := ∃ t, probe s = .ok true t

def after (probe : EStateM ε σ Bool) : Nat → σ → σ
  | 0, s => s
  | n + 1, s => after probe n (stateAfter (probe s))

variable {probe : EStateM ε σ Bool}

theorem attempt_of_succeeds {s : σ} (h : Succeeds probe s) (limit left : Nat) :
    attempt limit probe (left + 1) s = .ok (limit - left) (stateAfter (probe s)) := by
  obtain ⟨t, ht⟩ := h
  rw [attempt, ht]
  rfl

theorem attempt_of_fails {s : σ} (h : ¬ Succeeds probe s) (limit left : Nat) :
    attempt limit probe (left + 1) s = attempt limit probe left (stateAfter (probe s)) := by
  rw [attempt]
  cases hs : probe s with
  | ok found t =>
    cases found with
    | true => exact absurd ⟨t, hs⟩ h
    | false => rfl
  | error e t => rfl

/-- By induction on the attempts that fail first. -/
theorem attempt_of_first {limit left k : Nat} {s : σ} (hk : k < left) (hleft : left ≤ limit)
    (hyes : Succeeds probe (after probe k s)) (hno : ∀ j < k, ¬ Succeeds probe (after probe j s)) :
    attempt limit probe left s = .ok (limit - left + k + 1) (after probe (k + 1) s) := by
  induction k generalizing left s with
  | zero =>
    obtain ⟨left, rfl⟩ := Nat.exists_eq_add_one.2 hk
    have hfirst : Succeeds probe s := hyes
    have hnumber : limit - (left + 1) + 0 + 1 = limit - left := by omega
    rw [attempt_of_succeeds hfirst, hnumber]
    rfl
  | succ k ih =>
    obtain ⟨left, rfl⟩ := Nat.exists_eq_add_one.2 (Nat.zero_lt_of_lt hk)
    have hfirst : ¬ Succeeds probe s := hno 0 (Nat.succ_pos k)
    have hrest : attempt limit probe left (stateAfter (probe s)) =
        .ok (limit - left + k + 1) (after probe (k + 1) (stateAfter (probe s))) :=
      ih (by omega) (by omega) hyes fun j hj => hno (j + 1) (Nat.succ_lt_succ hj)
    have hnumber : limit - (left + 1) + (k + 1) + 1 = limit - left + k + 1 := by omega
    rw [attempt_of_fails hfirst, hrest, hnumber]
    rfl

theorem run_of_succeeds {limit k : Nat} {s : σ} (hk : k < limit)
    (hyes : Succeeds probe (after probe k s)) (hno : ∀ j < k, ¬ Succeeds probe (after probe j s)) :
    run limit probe s = .ok (k + 1) (after probe (k + 1) s) := by
  have hrun := attempt_of_first hk (Nat.le_refl limit) hyes hno
  rw [Nat.sub_self, Nat.zero_add] at hrun
  exact hrun

theorem attempt_of_all_fail {left : Nat} {s : σ}
    (hno : ∀ j < left, ¬ Succeeds probe (after probe j s)) (limit : Nat) :
    attempt limit probe left s = .error ⟨limit⟩ (after probe left s) := by
  induction left generalizing s with
  | zero => rfl
  | succ left ih =>
    have hfirst : ¬ Succeeds probe s := hno 0 (Nat.succ_pos left)
    rw [attempt_of_fails hfirst, ih fun j hj => hno (j + 1) (Nat.succ_lt_succ hj)]
    rfl

theorem run_of_fails {limit : Nat} {s : σ} (hno : ∀ j < limit, ¬ Succeeds probe (after probe j s)) :
    run limit probe s = .error ⟨limit⟩ (after probe limit s) :=
  attempt_of_all_fail hno limit

end Selenese.Poll
