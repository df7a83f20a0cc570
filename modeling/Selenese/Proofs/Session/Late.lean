import Selenese.Proofs.Command.Wait

/-!
# Selenese.Proofs.Session.Late

Elements that are found only after some failed look-ups.

* `Session.Late l m s`: in the session `s`, which is not forced to fail look-ups, an element is
  registered under the locator `l`, and `m` look-ups are still to miss it.
* `Session.Late.observed_iff`: it is found exactly if none is. `Session.Late.attempt`: an attempt to
  find it leaves one miss less, and `Session.Late.attempts`, after `n` attempts, `n` less.
* `Session.findCount_attempts`: each attempt counts as a look-up of its locator.
-/

namespace Selenese.Session

def pending? (s : Session) (l : Locator) : Option Nat :=
  (s.elements.find? fun r => r.locator = l).map Registered.misses

structure Late (l : Locator) (m : Nat) (s : Session) : Prop where
  free : s.failures.lookup .findElement = none
  pending : s.pending? l = some m

theorem lookup_pending {l : Locator} {m : Nat} {elements : List Registered}
    (h : (elements.find? fun r => r.locator = l).map Registered.misses = some m) :
    ((lookup l elements).1.isSome ↔ m = 0) ∧
      ((lookup l elements).2.find? fun r => r.locator = l).map Registered.misses = some (m - 1) := by
  induction elements with
  | nil => cases h
  | cons r rest ih =>
    rw [lookup]
    by_cases hr : r.locator = l
    · have hm : r.misses = m := by simpa [hr] using h
      by_cases hzero : r.misses = 0
      · simp [hr, hzero, ← hm]
      · simp [hr, hzero, ← hm]
    · have hrest : (rest.find? fun r => r.locator = l).map Registered.misses = some m := by
        simpa [hr] using h
      simpa [hr] using ih hrest

theorem lookup_countFind (l : Locator) (finds : List (Locator × Nat)) :
    (countFind l finds).lookup l = some ((finds.lookup l).getD 0 + 1) := by
  induction finds with
  | nil => simp [countFind]
  | cons f rest ih =>
    obtain ⟨l', n⟩ := f
    rw [countFind]
    by_cases hf : l' = l
    · simp [hf]
    · have hne : (l == l') = false := beq_false_of_ne (Ne.symm hf)
      simp [hf, List.lookup_cons, hne, ih]

theorem locate_eq_lookup {l : Locator} (hl : l.probedText? = none) (elements : List Registered) :
    locate l elements = lookup l elements := by
  rw [locate, hl]

theorem Late.attempt_eq {l : Locator} {m : Nat} {s : Session} (h : Late l m s) :
    Condition.present.attempt l s = s.afterFind l := by
  rw [Condition.attempt, findElement_eq h.free]
  cases (locate l s.elements).1 <;> rfl

section

variable {l : Locator} (hl : l.probedText? = none) {m : Nat} {s : Session} (h : Late l m s)

include hl h

theorem Late.afterFind : Late l (m - 1) (s.afterFind l) := by
  refine ⟨h.free, ?_⟩
  show ((locate l s.elements).2.find? _).map _ = _
  rw [locate_eq_lookup hl]
  exact (lookup_pending h.pending).2

theorem Late.observed_iff : Condition.present.Observed l s ↔ m = 0 := by
  rw [← (lookup_pending h.pending).1, ← locate_eq_lookup hl, Condition.Observed,
    findElement_eq h.free]
  cases (locate l s.elements).1 with
  | some i => simp [Condition.HoldsOf]
  | none => simp [SessionError.ofLocator]

theorem Late.attempts (n : Nat) : Late l (m - n) (Condition.present.attempts l n s) := by
  induction n generalizing m s with
  | zero => exact h
  | succ n ih =>
    have hrest := ih (h.attempt_eq ▸ h.afterFind hl)
    rwa [Nat.sub_sub, Nat.add_comm 1 n] at hrest

theorem Late.findCount_attempts (n : Nat) :
    (Condition.present.attempts l n s).findCount l = s.findCount l + n := by
  induction n generalizing m s with
  | zero => rfl
  | succ n ih =>
    have hfirst : (s.afterFind l).findCount l = s.findCount l + 1 := by
      show ((countFind l s.finds).lookup l).getD 0 = _
      rw [lookup_countFind]
      rfl
    rw [Condition.attempts, h.attempt_eq, ih (h.afterFind hl), hfirst]
    omega

end

end Selenese.Session
