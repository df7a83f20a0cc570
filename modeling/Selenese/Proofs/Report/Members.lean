import Mathlib.Algebra.GroupWithZero.Nat
import Mathlib.Data.List.Nodup
import Selenese.Report.Tree

/-!
# Selenese.Proofs.Report.Members

Going to a member of a list, which is created if it is missing.

* `find?_alterOrAdd`, `of_mem_alterOrAdd` and `mem_alterOrAdd`: what is found in the list afterwards.
* `note key l a` puts `a` at the end of the list `l`, unless something of its key is there already.
  `firsts key l` keeps of each key what came first. `map_alterOrAdd_note`: so a list notes how the
  members that were gone to are spelled.
* `length_alterOrAdd` and `sum_alterOrAdd` count.
-/

namespace Selenese.Report

/-! ## Finding -/

theorem find?_alterOrAdd {α κ : Type} [DecidableEq κ] (key : α → κ) {k : κ} {new : α} {f : α → α}
    (hnew : key new = k) (hf : ∀ a, key (f a) = key a) (k' : κ) (l : List α) :
    (alterOrAdd (fun a => decide (key a = k)) new f l).find? (fun a => decide (key a = k')) =
      if k = k' then some (f ((l.find? fun a => decide (key a = k')).getD new))
      else l.find? fun a => decide (key a = k') := by
  induction l with
  | nil =>
    by_cases h : k = k'
    · simp [alterOrAdd, hf, hnew, h]
    · simp [alterOrAdd, hf, hnew, h]
  | cons a r ih =>
    by_cases ha : key a = k
    · by_cases h : k = k'
      · subst h; simp [alterOrAdd, hf, ha]
      · simp [alterOrAdd, hf, ha, h]
    · by_cases ha' : key a = k'
      · have h : ¬ k' = k := fun e => ha (ha'.trans e)
        have h' : ¬ k = k' := fun e => h e.symm
        simp [alterOrAdd, ha', h, h']
      · simp [alterOrAdd, ha, ha', ih]

theorem of_mem_alterOrAdd {α : Type} {fits : α → Bool} {new : α} {f : α → α} {a : α} {l : List α}
    (h : a ∈ alterOrAdd fits new f l) : a ∈ l ∨ ∃ b ∈ new :: l, a = f b := by
  induction l with
  | nil => exact .inr ⟨new, List.mem_cons_self, List.mem_singleton.1 h⟩
  | cons b r ih =>
    rw [alterOrAdd] at h
    split at h
    · rcases List.mem_cons.1 h with rfl | h
      · exact .inr ⟨b, by simp, rfl⟩
      · exact .inl (List.mem_cons_of_mem _ h)
    · rcases List.mem_cons.1 h with rfl | h
      · exact .inl List.mem_cons_self
      · rcases ih h with h | ⟨c, hc, rfl⟩
        · exact .inl (List.mem_cons_of_mem _ h)
        · refine .inr ⟨c, ?_, rfl⟩
          rcases List.mem_cons.1 hc with rfl | hc
          · exact List.mem_cons_self
          · exact List.mem_cons_of_mem _ (List.mem_cons_of_mem _ hc)

theorem mem_alterOrAdd {α : Type} (fits : α → Bool) (new : α) (f : α → α) {a : α} {l : List α}
    (h : a ∈ l) : a ∈ alterOrAdd fits new f l ∨ f a ∈ alterOrAdd fits new f l := by
  induction l with
  | nil => cases h
  | cons b r ih =>
    rw [alterOrAdd]
    split
    · rcases List.mem_cons.1 h with rfl | h
      · exact .inr List.mem_cons_self
      · exact .inl (List.mem_cons_of_mem _ h)
    · rcases List.mem_cons.1 h with rfl | h
      · exact .inl List.mem_cons_self
      · exact (ih h).imp (List.mem_cons_of_mem _) (List.mem_cons_of_mem _)

/-! ## First come -/

section

variable {α κ : Type} [DecidableEq κ] (key : α → κ)

def note (l : List α) (a : α) : List α := if key a ∈ l.map key then l else l ++ [a]

def firsts (l : List α) : List α := l.foldl (note key) []

theorem prefix_note (l : List α) (a : α) : l <+: note key l a := by
  unfold note
  split
  · exact List.prefix_refl l
  · exact List.prefix_append l [a]

theorem nodup_note {l : List α} (h : (l.map key).Nodup) (a : α) : ((note key l a).map key).Nodup := by
  unfold note
  split
  · exact h
  · rename_i hnew
    rw [List.map_append]
    exact List.nodup_append.2 ⟨h, List.nodup_singleton _, by
      rintro k hk _ hk' rfl
      exact hnew (List.mem_singleton.1 hk' ▸ hk)⟩

theorem mem_map_note (l : List α) (a : α) (k : κ) :
    k ∈ (note key l a).map key ↔ k ∈ l.map key ∨ key a = k := by
  unfold note
  split
  · rename_i hold
    exact ⟨.inl, fun h => h.elim id (· ▸ hold)⟩
  · simp [eq_comm]

theorem nodup_foldl_note (as : List α) {l : List α} (h : (l.map key).Nodup) :
    ((as.foldl (note key) l).map key).Nodup := by
  induction as generalizing l with
  | nil => exact h
  | cons a rest ih => exact ih (nodup_note key h a)

theorem nodup_firsts (l : List α) : ((firsts key l).map key).Nodup :=
  nodup_foldl_note key l List.nodup_nil

theorem mem_map_foldl_note (as l : List α) (k : κ) :
    k ∈ (as.foldl (note key) l).map key ↔ k ∈ l.map key ∨ ∃ a ∈ as, key a = k := by
  induction as generalizing l with
  | nil => simp
  | cons a rest ih => rw [List.foldl_cons, ih, mem_map_note, or_assoc]; simp

/-- What a list spells after a member was gone to: as before, with the spelling of the member if it
was missing. -/
theorem map_alterOrAdd_note {β : Type} (spell : β → α) {a : α} {new : β} {f : β → β}
    (hnew : spell new = a) (hf : ∀ b, spell (f b) = spell b) (l : List β) :
    (alterOrAdd (fun b => decide (key (spell b) = key a)) new f l).map spell =
      note key (l.map spell) a := by
  induction l with
  | nil => simp [alterOrAdd, note, hf, hnew]
  | cons b r ih =>
    by_cases hb : key (spell b) = key a
    · simp [alterOrAdd, note, hb, hf]
    · have hne : ¬ key a = key (spell b) := fun h => hb h.symm
      rw [note] at ih ⊢
      by_cases hr : key a ∈ (r.map spell).map key
      · rw [if_pos hr] at ih
        rw [if_pos (show key a ∈ ((b :: r).map spell).map key from List.mem_cons_of_mem _ hr)]
        simp [alterOrAdd, hb, ih]
      · rw [if_neg hr] at ih
        rw [if_neg (by simpa [hne] using hr)]
        simp [alterOrAdd, hb, ih]

end

/-! ## Counting -/

theorem length_alterOrAdd {α : Type} (fits : α → Bool) (new : α) (f : α → α) (l : List α) :
    (alterOrAdd fits new f l).length = l.length + if (l.find? fits).isNone then 1 else 0 := by
  induction l with
  | nil => rfl
  | cons a r ih =>
    rw [alterOrAdd]
    by_cases ha : fits a
    · simp [ha]
    · rw [if_neg ha, List.length_cons, List.length_cons, ih, List.find?_cons_of_neg ha]
      omega

/-- A change that adds to the amount of the member it is made to adds as much to the sum. -/
theorem sum_alterOrAdd {α : Type} (amount : α → Nat) {new : α} {f : α → α} {n : Nat}
    (hnew : amount new = 0) {fits : α → Bool} {l : List α}
    (hf : amount (f ((l.find? fits).getD new)) = amount ((l.find? fits).getD new) + n) :
    ((alterOrAdd fits new f l).map amount).sum = (l.map amount).sum + n := by
  induction l with
  | nil => simpa [alterOrAdd, hnew] using hf
  | cons a r ih =>
    rw [alterOrAdd]
    by_cases ha : fits a
    · have hchanged : amount (f a) = amount a + n := by simpa [ha] using hf
      rw [if_pos ha, List.map_cons, List.map_cons, List.sum_cons, List.sum_cons, hchanged]
      omega
    · have hrest := ih (by simpa [ha] using hf)
      rw [if_neg ha, List.map_cons, List.map_cons, List.sum_cons, List.sum_cons, hrest]
      omega

end Selenese.Report
