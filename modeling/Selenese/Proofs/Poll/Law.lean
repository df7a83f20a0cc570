import Mathlib.Data.Nat.Find
import Mathlib.Order.Bounds.Basic
import Selenese.Proofs.Poll

/-!
# Selenese.Proofs.Poll.Law

What a wait answers, for any probe and any limit.

* `Poll.hits probe s limit`: the attempts up to the limit that answer yes.
* `Poll.run_ok_iff` and `Poll.run_error_iff`: a wait answers the least of them, and gives up if there
  is none.
* `Poll.counted probe`: the probe, counting its calls. `Poll.run_counted`: a wait that answers `k`
  calls its probe `k` times, and one that gives up calls it as often as it may.
* `Poll.run_excused`: failures of the probe are as good as the answer no. `Poll.run_add`: a higher
  limit keeps the answer of a wait.
-/

namespace Selenese.Poll

variable {σ ε : Type} {probe probe' : EStateM ε σ Bool} {s : σ} {limit : Nat}

/-! ## Attempts that answer yes -/

/-- The numbers of the attempts that answer yes, where the first attempt has the number one. -/
def hits (probe : EStateM ε σ Bool) (s : σ) (limit : Nat) : Set Nat :=
  {k | 1 ≤ k ∧ k ≤ limit ∧ Succeeds probe (after probe (k - 1) s)}

theorem mem_hits {k : Nat} :
    k ∈ hits probe s limit ↔ 1 ≤ k ∧ k ≤ limit ∧ Succeeds probe (after probe (k - 1) s) := Iff.rfl

theorem hits_mono {limit' : Nat} (h : limit ≤ limit') : hits probe s limit ⊆ hits probe s limit' := by
  rintro k ⟨hpos, hk, hyes⟩
  exact ⟨hpos, hk.trans h, hyes⟩

theorem hits_eq_empty_or_isLeast (probe : EStateM ε σ Bool) (s : σ) (limit : Nat) :
    hits probe s limit = ∅ ∨ ∃ k, IsLeast (hits probe s limit) k := by
  classical
  rcases Set.eq_empty_or_nonempty (hits probe s limit) with hnone | hsome
  · exact .inl hnone
  · exact .inr ⟨Nat.find hsome, Nat.find_spec hsome, fun _ hj => Nat.find_min' hsome hj⟩

theorem run_of_isLeast {k : Nat} (h : IsLeast (hits probe s limit) k) :
    run limit probe s = .ok k (after probe k s) := by
  obtain ⟨⟨hpos, hk, hyes⟩, hleast⟩ := h
  obtain ⟨j, rfl⟩ := Nat.exists_eq_add_of_le' hpos
  refine run_of_succeeds hk hyes fun i hi hearlier => ?_
  have hle : j + 1 ≤ i + 1 := hleast ⟨by omega, by omega, hearlier⟩
  omega

theorem run_of_hits_eq_empty (h : hits probe s limit = ∅) :
    run limit probe s = .error ⟨limit⟩ (after probe limit s) := by
  refine run_of_fails fun j hj hyes => ?_
  have hhit : j + 1 ∈ hits probe s limit := ⟨by omega, hj, hyes⟩
  rw [h] at hhit
  exact hhit

theorem run_ok_iff {k : Nat} {t : σ} :
    run limit probe s = .ok k t ↔ IsLeast (hits probe s limit) k ∧ t = after probe k s := by
  constructor
  · intro h
    rcases hits_eq_empty_or_isLeast probe s limit with hnone | ⟨j, hleast⟩
    · rw [run_of_hits_eq_empty hnone] at h
      cases h
    · rw [run_of_isLeast hleast] at h
      cases h
      exact ⟨hleast, rfl⟩
  · rintro ⟨hleast, rfl⟩
    exact run_of_isLeast hleast

theorem run_error_iff {e : Timeout} {t : σ} :
    run limit probe s = .error e t ↔
      hits probe s limit = ∅ ∧ e = ⟨limit⟩ ∧ t = after probe limit s := by
  constructor
  · intro h
    rcases hits_eq_empty_or_isLeast probe s limit with hnone | ⟨j, hleast⟩
    · rw [run_of_hits_eq_empty hnone] at h
      cases h
      exact ⟨hnone, rfl, rfl⟩
    · rw [run_of_isLeast hleast] at h
      cases h
  · rintro ⟨hnone, rfl, rfl⟩
    exact run_of_hits_eq_empty hnone

/-- A higher limit adds only attempts behind the answer. -/
theorem run_add {k : Nat} {t : σ} (h : run limit probe s = .ok k t) (more : Nat) :
    run (limit + more) probe s = .ok k t := by
  obtain ⟨⟨hhit, hleast⟩, rfl⟩ := run_ok_iff.1 h
  have hk : k ≤ limit := hhit.2.1
  refine run_of_isLeast ⟨hits_mono (Nat.le_add_right limit more) hhit, ?_⟩
  rintro j ⟨hpos, -, hyes⟩
  by_cases hj : j ≤ limit
  · exact hleast ⟨hpos, hj, hyes⟩
  · omega

/-! ## Probes that cannot be told apart -/

/-- A wait sees of a probe only where it leads and when it answers yes. -/
theorem run_congr (hafter : ∀ s, stateAfter (probe' s) = stateAfter (probe s))
    (hyes : ∀ s, Succeeds probe' s ↔ Succeeds probe s) (limit : Nat) (s : σ) :
    run limit probe' s = run limit probe s := by
  have hstates (n : Nat) : ∀ s, after probe' n s = after probe n s := by
    induction n with
    | zero => exact fun _ => rfl
    | succ n ih => intro s; rw [after, after, hafter, ih]
  have hhits : hits probe' s limit = hits probe s limit := by
    ext k
    simp only [mem_hits, hstates, hyes]
  rcases hits_eq_empty_or_isLeast probe s limit with hnone | ⟨k, hleast⟩
  · rw [run_of_hits_eq_empty hnone, run_of_hits_eq_empty (hhits.trans hnone), hstates]
  · rw [run_of_isLeast hleast, run_of_isLeast (hhits.symm ▸ hleast), hstates]

/-- The second probe answers no where the first one fails, in some states or in all of them. As the
state may hold the number of the attempt, this covers a choice for every attempt. -/
def Excused (probe probe' : EStateM ε σ Bool) : Prop :=
  ∀ s, probe' s = probe s ∨ ∃ e t, probe s = .error e t ∧ probe' s = .ok false t

theorem run_excused (h : Excused probe probe') (limit : Nat) (s : σ) :
    run limit probe' s = run limit probe s := by
  refine run_congr (fun s => ?_) (fun s => ?_) limit s
  · rcases h s with heq | ⟨e, t, hfails, hno⟩
    · rw [heq]
    · rw [hfails, hno]
      rfl
  · rcases h s with heq | ⟨e, t, hfails, hno⟩
    · rw [Succeeds, Succeeds, heq]
    · simp [Succeeds, hfails, hno]

/-! ## Calls of the probe -/

/-- A probe that counts how often it is called. -/
def counted (probe : EStateM ε σ Bool) : EStateM ε (σ × Nat) Bool := fun (s, calls) =>
  match probe s with
  | .ok found t => .ok found (t, calls + 1)
  | .error e t => .error e (t, calls + 1)

theorem stateAfter_counted (probe : EStateM ε σ Bool) (s : σ) (calls : Nat) :
    stateAfter (counted probe (s, calls)) = (stateAfter (probe s), calls + 1) := by
  cases h : probe s <;> simp [counted, h, stateAfter]

theorem succeeds_counted {calls : Nat} :
    Succeeds (counted probe) (s, calls) ↔ Succeeds probe s := by
  cases h : probe s <;> simp [Succeeds, counted, h]

theorem after_counted (n : Nat) (s : σ) (calls : Nat) :
    after (counted probe) n (s, calls) = (after probe n s, calls + n) := by
  induction n generalizing s calls with
  | zero => rfl
  | succ n ih =>
    rw [after, after, stateAfter_counted, ih]
    congr 1
    omega

theorem hits_counted (calls : Nat) : hits (counted probe) (s, calls) limit = hits probe s limit := by
  ext k
  simp only [mem_hits, after_counted, succeeds_counted]

theorem Excused.counted (h : Excused probe probe') :
    Excused (counted probe) (Poll.counted probe') := by
  rintro ⟨s, calls⟩
  rcases h s with heq | ⟨e, t, hfails, hno⟩
  · exact .inl (by simp [Poll.counted, heq])
  · exact .inr ⟨e, (t, calls + 1), by simp [Poll.counted, hfails], by simp [Poll.counted, hno]⟩

/-- The end of a wait, with as many calls as it answers, or as it had attempts. -/
def withCalls : EStateM.Result Timeout σ Nat → EStateM.Result Timeout (σ × Nat) Nat
  | .ok k t => .ok k (t, k)
  | .error e t => .error e (t, e.attempts)

theorem run_counted (probe : EStateM ε σ Bool) (s : σ) (limit : Nat) :
    run limit (counted probe) (s, 0) = withCalls (run limit probe s) := by
  rcases hits_eq_empty_or_isLeast probe s limit with hnone | ⟨k, hleast⟩
  · rw [run_of_hits_eq_empty hnone, run_of_hits_eq_empty ((hits_counted 0).trans hnone),
      after_counted, Nat.zero_add]
    rfl
  · have hcounted : IsLeast (hits (counted probe) (s, 0) limit) k := (hits_counted 0).symm ▸ hleast
    rw [run_of_isLeast hleast, run_of_isLeast hcounted, after_counted, Nat.zero_add]
    rfl

/-- A wait answers its first successful attempt and makes no attempt after it; without one it makes
all attempts. Failures of the probe, and attempts behind the answer, do not matter. -/
theorem run_least (probe : EStateM ε σ Bool) (s : σ) (limit : Nat) :
    (∀ k t, run limit probe s = .ok k t ↔
      IsLeast (hits probe s limit) k ∧ t = after probe k s) ∧
    (∀ e t, run limit probe s = .error e t ↔
      hits probe s limit = ∅ ∧ e = ⟨limit⟩ ∧ t = after probe limit s) ∧
    run limit (counted probe) (s, 0) = withCalls (run limit probe s) ∧
    (∀ probe', Excused probe probe' → run limit probe' s = run limit probe s ∧
      run limit (counted probe') (s, 0) = run limit (counted probe) (s, 0)) ∧
    ∀ more k t, run limit probe s = .ok k t → run (limit + more) probe s = .ok k t := by
  refine ⟨fun k t => run_ok_iff, fun e t => run_error_iff, run_counted probe s limit, ?_, ?_⟩
  · intro probe' h
    exact ⟨run_excused h limit s, run_excused h.counted limit (s, 0)⟩
  · intro more k t h
    exact run_add h more

/-- Fails or says no first, says no then, and yes after that. -/
def thirdYes (fails : Bool) : EStateM String Nat Bool
  | 0 => if fails then .error "stale element" 1 else .ok false 1
  | n + 1 => .ok (0 < n) (n + 2)

theorem run_least_third : Excused (thirdYes true) (thirdYes false) ∧
    run 3 (thirdYes true) 0 = .ok 3 3 ∧ run 3 (thirdYes false) 0 = .ok 3 3 ∧
    run (3 + 2) (thirdYes true) 0 = .ok 3 3 := by
  obtain ⟨-, -, -, hexcused, hmore⟩ := run_least (thirdYes true) 0 3
  have hthird : run 3 (thirdYes true) 0 = .ok 3 3 := rfl
  have h : Excused (thirdYes true) (thirdYes false)
    | 0 => .inr ⟨"stale element", 1, rfl, rfl⟩
    | _ + 1 => .inl rfl
  exact ⟨h, hthird, (hexcused _ h).1.trans hthird, hmore 2 3 3 hthird⟩

end Selenese.Poll
