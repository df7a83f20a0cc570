import Selenese.Pattern.Regex.Basic

/-!
# Selenese.Proofs.Pattern.Reach

Following sets of positions finds exactly the matches.

* `Regex.Steps R n i j`: `n` steps of the relation `R` lead from `i` to `j`.
* `Regex.matches_repeat_iff`: a repetition matches by steps of what is repeated, as many as its bounds
  allow.
* `Regex.mem_spread`: spreading from a set finds what a limited number of steps leads to, also where it
  stops early since a step found nothing new.
* `Regex.mem_reach` and `Regex.search_iff`: so `reach` and `search` answer what `Matches` says, for every
  expression with its bounds in order.
-/

namespace Selenese.Regex

/-! ## Steps -/

inductive Steps (R : Nat → Nat → Prop) : Nat → Nat → Nat → Prop where
  | zero {i : Nat} : Steps R 0 i i
  | succ {n i j k : Nat} : R i j → Steps R n j k → Steps R (n + 1) i k

namespace Steps

variable {R : Nat → Nat → Prop} {m n i j k : Nat}

theorem append (h : Steps R m i j) (h' : Steps R n j k) : Steps R (m + n) i k := by
  induction h with
  | zero => simpa using h'
  | succ hstep _ ih =>
    rw [Nat.add_right_comm]
    exact .succ hstep (ih h')

theorem split (h : Steps R (m + n) i k) : ∃ j, Steps R m i j ∧ Steps R n j k := by
  induction m generalizing i with
  | zero => exact ⟨i, .zero, by simpa using h⟩
  | succ m ih =>
    rw [Nat.add_right_comm] at h
    cases h with
    | succ hstep hrest =>
      obtain ⟨j, hm, hn⟩ := ih hrest
      exact ⟨j, .succ hstep hm, hn⟩

/-- Steps that stay in place can be left out, so at most as many are needed as there are places to go. -/
theorem shorten (hR : ∀ i j, R i j → i ≤ j) (h : Steps R n i k) :
    i ≤ k ∧ ∃ m, m ≤ n ∧ m ≤ k - i ∧ Steps R m i k := by
  induction h with
  | zero => exact ⟨Nat.le_refl _, 0, Nat.le_refl _, Nat.zero_le _, .zero⟩
  | @succ n i j k hstep _ ih =>
    obtain ⟨hjk, m, hmn, hm, hsteps⟩ := ih
    have hij := hR i j hstep
    rcases Nat.eq_or_lt_of_le hij with rfl | hlt
    · exact ⟨hjk, m, by omega, hm, hsteps⟩
    · exact ⟨by omega, m + 1, by omega, by omega, .succ hstep hsteps⟩

end Steps

/-! ## Matches -/

variable {text : Array Char} {r : Regex} {i j : Nat}

/-- A match does not run backwards, and takes up nothing behind the end of the text. -/
theorem Matches.bounds (h : Matches text r i j) : i ≤ j ∧ (i < j → j ≤ text.size) := by
  induction h with
  | empty | look | stop => simp
  | set hc _ =>
    have := (Array.getElem?_eq_some_iff.1 hc).1
    omega
  | altLeft _ ih | altRight _ ih | group _ ih => exact ih
  | seq _ _ ih ih' | step _ _ _ ih ih' => omega

theorem matches_repeat_iff {min : Nat} {max : Option Nat} {lazy : Bool} :
    Matches text («repeat» r min max lazy) i j ↔
      ∃ n, min ≤ n ∧ (∀ m ∈ max, n ≤ m) ∧ Steps (Matches text r) n i j := by
  constructor
  · intro h
    generalize hs : «repeat» r min max lazy = s at h
    induction h generalizing min max with
    | stop =>
      cases hs
      exact ⟨0, Nat.le_refl _, fun m _ => Nat.zero_le m, .zero⟩
    | step hmax hfirst _ _ ih =>
      cases hs
      obtain ⟨n, hmin, hlimit, hsteps⟩ := ih rfl
      refine ⟨n + 1, by omega, ?_, .succ hfirst hsteps⟩
      rintro m rfl
      have hpos : m ≠ 0 := fun hm => hmax (by rw [hm])
      have := hlimit (m - 1) rfl
      omega
    | _ => cases hs
  · rintro ⟨n, hmin, hlimit, hsteps⟩
    induction hsteps generalizing min max with
    | zero =>
      cases Nat.le_zero.1 hmin
      exact .stop
    | succ hfirst _ ih =>
      refine .step ?_ hfirst (ih (by omega) ?_)
      · rintro rfl
        exact absurd (hlimit 0 rfl) (by omega)
      · intro m hm
        obtain ⟨m', rfl, rfl⟩ := Option.map_eq_some_iff.1 hm
        have := hlimit m' rfl
        omega

/-! ## Sets of positions -/

theorem mem_merge {l m : List Nat} {x : Nat} : x ∈ merge l m ↔ x ∈ l ∨ x ∈ m := by
  fun_induction merge l m with
  | case1 m => simp
  | case2 l => simp
  | case3 a l b m _ ih => simp [ih, or_assoc]
  | case4 a l b m _ _ ih => simp [ih, or_left_comm]
  | case5 a l b m hab hba ih =>
    have : a = b := by omega
    subst this
    by_cases hx : x = a <;> simp [ih, hx]

theorem mem_of_mem_without {l m : List Nat} {x : Nat} (h : x ∈ without l m) : x ∈ l := by
  fun_induction without l m with
  | case1 => simp at h
  | case2 => exact h
  | case3 a l b m _ ih =>
    rcases List.mem_cons.1 h with rfl | h
    · simp
    · simp [ih h]
  | case4 a l b m _ _ ih => exact ih h
  | case5 a l b m _ _ ih => simp [ih h]

theorem mem_without_or_mem {l m : List Nat} {x : Nat} (h : x ∈ l) : x ∈ without l m ∨ x ∈ m := by
  fun_induction without l m with
  | case1 => simp at h
  | case2 => exact .inl h
  | case3 a l b m _ ih =>
    rcases List.mem_cons.1 h with rfl | h
    · simp
    · rcases ih h with h | h <;> simp [h]
  | case4 a l b m _ _ ih => rcases ih h with h | h <;> simp [h]
  | case5 a l b m hab hba ih =>
    have : a = b := by omega
    subst this
    rcases List.mem_cons.1 h with rfl | h
    · simp
    · rcases ih h with h | h <;> simp [h]

section

variable {step : List Nat → List Nat} {R : Nat → Nat → Prop}
  (hstep : ∀ s j, j ∈ step s ↔ ∃ i ∈ s, R i j)

include hstep

theorem mem_iterate (n : Nat) (s : List Nat) (j : Nat) :
    j ∈ iterate step n s ↔ ∃ i ∈ s, Steps R n i j := by
  induction n generalizing s with
  | zero =>
    constructor
    · intro h
      exact ⟨j, h, .zero⟩
    · rintro ⟨i, hi, hsteps⟩
      cases hsteps
      exact hi
  | succ n ih =>
    rw [iterate]
    split
    · rename_i hempty
      simp [List.isEmpty_iff.1 hempty]
    · rw [ih]
      constructor
      · rintro ⟨k, hk, hsteps⟩
        obtain ⟨i, hi, hfirst⟩ := (hstep s k).1 hk
        exact ⟨i, hi, .succ hfirst hsteps⟩
      · rintro ⟨i, hi, hsteps⟩
        cases hsteps with
        | succ hfirst hrest => exact ⟨_, (hstep s _).2 ⟨i, hi, hfirst⟩, hrest⟩

/-- What leads out of the seen positions passes one that the next step finds. -/
theorem Steps.leaves {front seen : List Nat} (hclosed : ∀ i ∈ seen, i ∉ front → ∀ j, R i j → j ∈ seen)
    {n i k : Nat} (h : Steps R n i k) (hi : i ∈ seen) :
    k ∈ seen ∨ ∃ j ∈ without (step front) seen, ∃ m, m < n ∧ Steps R m j k := by
  induction h with
  | zero => exact .inl hi
  | @succ n i j k hfirst hrest ih =>
    have hj : j ∈ without (step front) seen ∨ j ∈ seen := by
      by_cases hfront : i ∈ front
      · exact mem_without_or_mem ((hstep front j).2 ⟨i, hfront, hfirst⟩)
      · exact .inr (hclosed i hi hfront j hfirst)
    rcases hj with hj | hj
    · exact .inr ⟨j, hj, n, n.lt_succ_self, hrest⟩
    · rcases ih hj with hk | ⟨j', hj', m, hm, hsteps⟩
      · exact .inl hk
      · exact .inr ⟨j', hj', m, by omega, hsteps⟩

/-- The positions seen so far are closed under steps, but for those found last. -/
theorem mem_spread (n : Nat) (front seen : List Nat) (hfront : ∀ i ∈ front, i ∈ seen)
    (hclosed : ∀ i ∈ seen, i ∉ front → ∀ j, R i j → j ∈ seen) (k : Nat) :
    k ∈ spread step n front seen ↔ k ∈ seen ∨ ∃ i ∈ front, ∃ m, m ≤ n ∧ Steps R m i k := by
  induction n generalizing front seen with
  | zero =>
    refine ⟨.inl, ?_⟩
    rintro (hk | ⟨i, hi, m, hm, hsteps⟩)
    · exact hk
    · cases Nat.le_zero.1 hm
      cases hsteps
      exact hfront _ hi
  | succ n ih =>
    have hnew : ∀ j ∈ without (step front) seen, ∃ i ∈ front, R i j := fun j hj =>
      (hstep front j).1 (mem_of_mem_without hj)
    have hspread : k ∈ spread step (n + 1) front seen ↔
        k ∈ seen ∨ ∃ j ∈ without (step front) seen, ∃ m, m ≤ n ∧ Steps R m j k := by
      rw [spread]
      split
      · rename_i hnone
        simp [hnone]
      · rename_i hsome
        rw [ih _ _ (fun i hi => mem_merge.2 (.inr hi))]
        · rw [mem_merge, or_assoc]
          refine or_congr_right ⟨?_, .inr⟩
          rintro (hk | hk)
          · exact ⟨k, hk, 0, Nat.zero_le _, .zero⟩
          · exact hk
        · intro i hi hold j hij
          have hseen : i ∈ seen := (mem_merge.1 hi).resolve_right hold
          rw [mem_merge]
          by_cases hfront : i ∈ front
          · exact (mem_without_or_mem ((hstep front j).2 ⟨i, hfront, hij⟩)).symm
          · exact .inl (hclosed i hseen hfront j hij)
    rw [hspread]
    constructor
    · rintro (hk | ⟨j, hj, m, hm, hsteps⟩)
      · exact .inl hk
      · obtain ⟨i, hi, hij⟩ := hnew j hj
        exact .inr ⟨i, hi, m + 1, by omega, .succ hij hsteps⟩
    · rintro (hk | ⟨i, hi, m, hm, hsteps⟩)
      · exact .inl hk
      · rcases hsteps.leaves hstep hclosed (hfront i hi) with hk | ⟨j, hj, m', hm', hsteps'⟩
        · exact .inl hk
        · exact .inr ⟨j, hj, m', by omega, hsteps'⟩

end

/-! ## Expressions -/

/-- The bounds of every counted repetition are in order. -/
def Orderly : Regex → Prop
  | empty | set _ | look _ => True
  | seq r t | alt r t => Orderly r ∧ Orderly t
  | group _ r => Orderly r
  | «repeat» r min max _ => Orderly r ∧ ∀ m ∈ max, min ≤ m

/-- As many rounds as `reach` takes are enough, also without an upper bound. -/
theorem mem_reach_repeat {min : Nat} {max : Option Nat} {lazy : Bool} (hbounds : ∀ m ∈ max, min ≤ m)
    (hr : ∀ s j, j ∈ reach text r s ↔ ∃ i ∈ s, Matches text r i j) (s : List Nat) (j : Nat) :
    j ∈ reach text («repeat» r min max lazy) s ↔
      ∃ i ∈ s, Matches text («repeat» r min max lazy) i j := by
  unfold reach
  rw [mem_spread hr _ _ _ (fun _ h => h) fun i hi hnot => absurd hi hnot]
  have hfirst (k : Nat) : k ∈ iterate (reach text r) min s ↔ ∃ i ∈ s, Steps (Matches text r) min i k :=
    mem_iterate hr min s k
  constructor
  · rintro (hj | ⟨k, hk, m, hm, hsteps⟩)
    · obtain ⟨i, hi, hsteps⟩ := (hfirst j).1 hj
      exact ⟨i, hi, matches_repeat_iff.2 ⟨min, Nat.le_refl _, hbounds, hsteps⟩⟩
    · obtain ⟨i, hi, hmin⟩ := (hfirst k).1 hk
      refine ⟨i, hi, matches_repeat_iff.2 ⟨min + m, by omega, ?_, hmin.append hsteps⟩⟩
      rintro limit rfl
      have := hbounds limit rfl
      simp only at hm
      omega
  · rintro ⟨i, hi, hmatch⟩
    obtain ⟨n, hmin, hlimit, hsteps⟩ := matches_repeat_iff.1 hmatch
    obtain ⟨d, rfl⟩ := Nat.exists_eq_add_of_le hmin
    obtain ⟨k, hk, hrest⟩ := hsteps.split
    refine .inr ⟨k, (hfirst k).2 ⟨i, hi, hk⟩, ?_⟩
    cases max with
    | some limit =>
      have := hlimit limit rfl
      exact ⟨d, by simp only; omega, hrest⟩
    | none =>
      obtain ⟨hkj, m, _, hm, hshort⟩ := hrest.shorten fun i j h => h.bounds.1
      have hmatch : Matches text («repeat» r 0 none lazy) k j :=
        matches_repeat_iff.2 ⟨m, Nat.zero_le _, (fun _ hlimit => by cases hlimit), hshort⟩
      have := hmatch.bounds.2
      exact ⟨m, by simp only; omega, hshort⟩

theorem mem_reach (h : r.Orderly) (s : List Nat) (j : Nat) :
    j ∈ reach text r s ↔ ∃ i ∈ s, Matches text r i j := by
  induction r generalizing s j with
  | empty =>
    constructor
    · intro hj
      exact ⟨j, hj, .empty⟩
    · rintro ⟨i, hi, hmatch⟩
      cases hmatch
      exact hi
  | set c =>
    simp only [reach, List.mem_map, List.mem_filter, Option.any_eq_true]
    constructor
    · rintro ⟨i, ⟨hi, a, ha, hc⟩, rfl⟩
      exact ⟨i, hi, .set ha hc⟩
    · rintro ⟨i, hi, hmatch⟩
      cases hmatch with
      | set ha hc => exact ⟨i, ⟨hi, _, ha, hc⟩, rfl⟩
  | look l =>
    simp only [reach, List.mem_filter]
    constructor
    · rintro ⟨hj, hl⟩
      exact ⟨j, hj, .look hl⟩
    · rintro ⟨i, hi, hmatch⟩
      cases hmatch with
      | look hl => exact ⟨hi, hl⟩
  | seq r t ihr iht =>
    rw [reach, iht h.2]
    constructor
    · rintro ⟨k, hk, hmatch⟩
      obtain ⟨i, hi, hfirst⟩ := (ihr h.1 s k).1 hk
      exact ⟨i, hi, .seq hfirst hmatch⟩
    · rintro ⟨i, hi, hmatch⟩
      cases hmatch with
      | seq hfirst hsecond => exact ⟨_, (ihr h.1 s _).2 ⟨i, hi, hfirst⟩, hsecond⟩
  | alt r t ihr iht =>
    rw [reach, mem_merge, ihr h.1, iht h.2]
    constructor
    · rintro (⟨i, hi, hmatch⟩ | ⟨i, hi, hmatch⟩)
      · exact ⟨i, hi, .altLeft hmatch⟩
      · exact ⟨i, hi, .altRight hmatch⟩
    · rintro ⟨i, hi, hmatch⟩
      cases hmatch with
      | altLeft hleft => exact .inl ⟨i, hi, hleft⟩
      | altRight hright => exact .inr ⟨i, hi, hright⟩
  | group n r ih =>
    rw [reach, ih h]
    constructor
    · rintro ⟨i, hi, hmatch⟩
      exact ⟨i, hi, .group hmatch⟩
    · rintro ⟨i, hi, hmatch⟩
      cases hmatch with
      | group hinner => exact ⟨i, hi, hinner⟩
  | «repeat» r min max lazy ih => exact mem_reach_repeat h.2 (ih h.1) s j

theorem search_iff (h : r.Orderly) (t : String) :
    r.search t = true ↔
      ∃ i, i ≤ t.toList.length ∧ ∃ j, Matches t.toList.toArray r i j := by
  have hempty (l : List Nat) : (!l.isEmpty) = true ↔ ∃ j, j ∈ l := by
    cases l <;> simp
  rw [search, hempty]
  constructor
  · rintro ⟨j, hj⟩
    obtain ⟨i, hi, hmatch⟩ := (mem_reach h _ j).1 hj
    exact ⟨i, by simpa [Nat.lt_succ_iff] using hi, j, hmatch⟩
  · rintro ⟨i, hi, j, hmatch⟩
    exact ⟨j, (mem_reach h _ j).2 ⟨i, by simpa [Nat.lt_succ_iff] using hi, hmatch⟩⟩

end Selenese.Regex
