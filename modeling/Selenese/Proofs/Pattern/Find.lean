import Selenese.Pattern.Regex.Find
import Selenese.Proofs.Text.CaseFold

/-!
# Selenese.Proofs.Pattern.Find

Texts with something else in place of every match.

* `Regex.Advances r`: no match of `r` takes up nothing.
* `replacedFrom_here`, `replacedFrom_next`, `replacedFrom_end`: the text that such an expression leaves,
  position by position. Where a match begins the search goes on behind it, and anywhere else the
  character is copied.
* `upTo_until`, `upTo_unclosed`: a lazy repetition that some character ends.
-/

namespace Selenese.Regex

section

variable {r : Regex} {text : Array Char} {i j : Nat} {m : Match}

theorem getElem?_of_drop {c : Char} {l : List Char} (h : text.toList.drop i = c :: l) :
    text[i]? = some c ∧ text.toList.drop (i + 1) = l := by
  constructor
  · rw [← Array.getElem?_toList, ← List.head?_drop, h, List.head?_cons]
  · rw [← List.drop_drop, h, List.drop_one, List.tail_cons]

theorem drop_of_getElem? {c : Char} (h : text[i]? = some c) :
    text.toList.drop i = c :: text.toList.drop (i + 1) := by
  obtain ⟨hlt, rfl⟩ := Array.getElem?_eq_some_iff.mp h
  exact List.drop_eq_getElem_cons hlt

theorem lt_size_of_drop {c : Char} {l : List Char} (h : text.toList.drop i = c :: l) : i < text.size :=
  (Array.getElem?_eq_some_iff.mp (getElem?_of_drop h).1).1

theorem getElem?_of_drop_nil (h : text.toList.drop i = []) : text[i]? = none := by
  rw [← Array.getElem?_toList, ← List.head?_drop, h, List.head?_nil]

/-! ## The search -/

theorem matchAt_start (h : matchAt r text i = some m) : m.start = i := by
  obtain ⟨p, -, rfl⟩ := Option.map_eq_some_iff.mp h
  rfl

theorem find_here (h : matchAt r text i = some m) (hi : i ≤ text.size) : find r text i = some m := by
  rw [find, Nat.sub_add_comm hi, findAmong, h, Option.orElse_some]

theorem find_next (h : matchAt r text i = none) (hi : i ≤ text.size) :
    find r text i = find r text (i + 1) := by
  rw [find, Nat.sub_add_comm hi, findAmong, h, Option.orElse_none, find, Nat.add_sub_add_right]

theorem find_behind (hi : text.size < i) : find r text i = none := by
  rw [find, Nat.sub_eq_zero_of_le hi, findAmong]

theorem matchAt_of_find (h : find r text i = some m) : i ≤ m.start ∧ matchAt r text m.start = some m := by
  unfold find at h
  generalize text.size + 1 - i = n at h
  induction n generalizing i with
  | zero => simp [findAmong] at h
  | succ n ih =>
    rw [findAmong] at h
    cases hm : matchAt r text i with
    | none =>
      rw [hm, Option.orElse_none] at h
      exact ⟨Nat.le_of_succ_le (ih h).1, (ih h).2⟩
    | some m' =>
      rw [hm, Option.orElse_some, Option.some.injEq] at h
      subst h
      have hstart := matchAt_start hm
      exact ⟨hstart.ge, hstart.symm ▸ hm⟩

/-! ## The matches one behind the other -/

/-- Every match takes up a character at least. -/
def Advances (r : Regex) : Prop :=
  ∀ (text : Array Char) (i : Nat) (m : Match), matchAt r text i = some m → i < m.stop

/-- The matches from a position on. -/
def matchesBehind (r : Regex) (text : Array Char) (i : Nat) : List Match :=
  matchesFrom r text (text.size + 1 - i) i none

theorem matchesFrom_behind {n : Nat} {ended : Option Nat} (hi : text.size < i) :
    matchesFrom r text n i ended = [] := by
  cases n with
  | zero => rfl
  | succ n => rw [matchesFrom, find_behind hi]

section

variable (hr : r.Advances)

include hr

theorem Advances.start_lt_stop (h : find r text i = some m) : m.start < m.stop :=
  hr text m.start m (matchAt_of_find h).2

theorem Advances.matchesFrom_succ (n i : Nat) (ended : Option Nat) :
    matchesFrom r text (n + 1) i ended = match find r text i with
      | none => []
      | some m => m :: matchesFrom r text n m.stop (some m.stop) := by
  rw [matchesFrom]
  cases hm : find r text i with
  | none => rfl
  | some m =>
    have hlt := hr.start_lt_stop hm
    exact if_neg fun h => hlt.ne' h.1

/-- Neither the fuel nor the end of the match before matters as long as the fuel lasts. -/
theorem Advances.matchesFrom_congr {n n' : Nat} {e e' : Option Nat}
    (hn : text.size < n + i) (hn' : text.size < n' + i) :
    matchesFrom r text n i e = matchesFrom r text n' i e' := by
  induction n generalizing i n' e e' with
  | zero => rw [matchesFrom_behind (by omega), matchesFrom_behind (by omega)]
  | succ n ih =>
    cases n' with
    | zero => rw [matchesFrom_behind (by omega), matchesFrom_behind (by omega)]
    | succ n' =>
      rw [hr.matchesFrom_succ, hr.matchesFrom_succ]
      cases hm : find r text i with
      | none => rfl
      | some m =>
        have hle := (matchAt_of_find hm).1
        have hlt := hr.start_lt_stop hm
        exact congrArg (m :: ·) (ih (by omega) (by omega))

theorem Advances.allMatches_eq : allMatches r text = matchesBehind r text 0 :=
  hr.matchesFrom_congr (by omega) (by omega)

theorem Advances.matchesBehind_eq :
    matchesBehind r text i = match find r text i with
      | none => []
      | some m => m :: matchesBehind r text m.stop := by
  unfold matchesBehind
  rcases Nat.lt_or_ge text.size i with hlt | hle
  · rw [matchesFrom_behind hlt, find_behind hlt]
  · rw [Nat.sub_add_comm hle, hr.matchesFrom_succ]
    cases hm : find r text i with
    | none => rfl
    | some m =>
      have hle := (matchAt_of_find hm).1
      have hlt := hr.start_lt_stop hm
      exact congrArg (m :: ·) (hr.matchesFrom_congr (by omega) (by omega))

end

/-! ## The text with something else in place of the matches -/

theorem slice_size (text : Array Char) (i : Nat) : slice text i text.size = text.toList.drop i := by
  rw [slice, Array.toList_extract, List.extract_eq_take_drop]
  exact List.take_of_length_le (by simp)

theorem slice_self (text : Array Char) (i : Nat) : slice text i i = [] := by
  simp [slice]

theorem slice_cons {c : Char} {l : List Char} (h : text.toList.drop i = c :: l) (hj : i < j) :
    slice text i j = c :: slice text (i + 1) j := by
  obtain ⟨k, rfl⟩ : ∃ k, j = i + 1 + k := Nat.exists_eq_add_of_le hj
  have hsub : i + 1 + k - i = k + 1 := by omega
  have hsub' : i + 1 + k - (i + 1) = k := by omega
  simp only [slice, Array.toList_extract, List.extract_eq_take_drop, h, (getElem?_of_drop h).2, hsub,
    hsub', List.take_succ_cons]

theorem slice_of_drop {s l : List Char} (h : text.toList.drop i = s ++ l) :
    slice text i (i + s.length) = s := by
  rw [slice, Array.toList_extract, List.extract_eq_take_drop, h, Nat.add_sub_cancel_left, List.take_left]

/-- What is written from a position on. -/
def replacedFrom (r : Regex) (text : Array Char) (new : Match → List Char) (i : Nat) : List Char :=
  replaceMatches text new i (matchesBehind r text i)

variable {new : Match → List Char}

section

variable (hr : r.Advances)

include hr

theorem Advances.toList_replaceAll (s : String) (new : (Nat → Option (List Char)) → List Char) :
    (r.replaceAll s new).toList =
      replacedFrom r s.toList.toArray (fun m => new (m.group? s.toList.toArray)) 0 := by
  rw [replaceAll, String.toList_ofList, hr.allMatches_eq, replacedFrom]

theorem Advances.replacedFrom_end (h : matchAt r text i = none) (hi : text.toList.drop i = []) :
    replacedFrom r text new i = [] := by
  have hsize : text.size ≤ i := by simpa using hi
  have hfind : find r text i = none := by
    rcases Nat.eq_or_lt_of_le hsize with heq | hlt
    · rw [find_next h heq.ge, find_behind (by omega)]
    · exact find_behind hlt
  rw [replacedFrom, hr.matchesBehind_eq, hfind]
  exact (slice_size text i).trans hi

theorem Advances.replacedFrom_here (h : matchAt r text i = some m) (hi : i ≤ text.size) :
    replacedFrom r text new i = new m ++ replacedFrom r text new m.stop := by
  rw [replacedFrom, hr.matchesBehind_eq, find_here h hi]
  show slice text i m.start ++ new m ++ _ = _
  rw [matchAt_start h, slice_self, List.nil_append, replacedFrom]

theorem Advances.replacedFrom_next {c : Char} {l : List Char} (h : matchAt r text i = none)
    (hi : text.toList.drop i = c :: l) :
    replacedFrom r text new i = c :: replacedFrom r text new (i + 1) := by
  have hlt := lt_size_of_drop hi
  rw [replacedFrom, replacedFrom, hr.matchesBehind_eq, find_next h (Nat.le_of_lt hlt),
    hr.matchesBehind_eq (i := i + 1)]
  cases hm : find r text (i + 1) with
  | none => exact slice_cons hi hlt
  | some m =>
    have hle := (matchAt_of_find hm).1
    simp only [replaceMatches, slice_cons hi hle, List.cons_append]

end

end

/-! ## Single characters -/

section

variable {α : Type} {text : Array Char} {next : Place → Option α} {p : Place}

theorem firstWay_char {c : Char} : firstWay text (char c) next p =
    if text[p.position]? = some c then next { p with position := p.position + 1 } else none := by
  rw [char, firstWay]
  simp only [Option.any_eq_true, CharSet.mem_single, exists_eq_right]

/-- A character that is not `stop`, as a class in brackets. -/
def other (stop : Char) : Regex := set (.bracket (.negate (.single stop)))

theorem mem_other {c stop : Char} : (CharSet.bracket (.negate (.single stop))).mem c = true ↔ c ≠ stop := by
  rw [CharSet.mem, CharSet.mem, Bool.not_eq_true', ← Bool.not_eq_true, CharSet.mem_single]

theorem firstWay_other {c stop : Char} {l : List Char} (h : text.toList.drop p.position = c :: l) :
    firstWay text (other stop) next p =
      if c = stop then none else next { p with position := p.position + 1 } := by
  rw [other, firstWay, (getElem?_of_drop h).1]
  simp only [Option.any_some, mem_other, ite_not]

theorem firstWay_other_end {stop : Char} (h : text.toList.drop p.position = []) :
    firstWay text (other stop) next p = none := by
  rw [other, firstWay, getElem?_of_drop_nil h]
  rfl

variable {stop : Char} (hnext : ∀ q : Place, text[q.position]? ≠ some stop → next q = none)

include hnext

/-- What stands before `stop` is taken up character by character, as what follows fails on all others. -/
theorem upTo_until {s l : List Char} {n : Nat} (h : text.toList.drop p.position = s ++ stop :: l)
    (hs : stop ∉ s) (hn : s.length ≤ n) :
    upTo (firstWay text (other stop)) true n next p = next { p with position := p.position + s.length } := by
  induction s generalizing n p with
  | nil =>
    show upTo _ true n next p = next p
    cases n with
    | zero => rfl
    | succ n =>
      rw [upTo, if_pos rfl, firstWay_other h, if_pos rfl]
      cases next p <;> rfl
  | cons c s ih =>
    obtain ⟨n, rfl⟩ : ∃ k, n = k + 1 := ⟨n - 1, by simp at hn; omega⟩
    have hc : c ≠ stop := fun hc => hs (hc ▸ List.mem_cons_self)
    have hfail : next p = none := hnext p (by rw [(getElem?_of_drop h).1]; simpa using hc)
    rw [upTo, if_pos rfl, hfail, Option.orElse_none, firstWay_other h, if_neg hc, if_pos (Nat.lt_succ_self _)]
    rw [ih (getElem?_of_drop h).2 (fun h => hs (List.mem_cons_of_mem _ h)) (by simpa using hn)]
    simp [Nat.add_assoc, Nat.add_comm 1]

theorem upTo_unclosed {n : Nat} (h : stop ∉ text.toList.drop p.position) :
    upTo (firstWay text (other stop)) true n next p = none := by
  have hfail {q : Place} (h : stop ∉ text.toList.drop q.position) : next q = none := by
    refine hnext q fun hq => h ?_
    rw [← Array.getElem?_toList, ← List.head?_drop] at hq
    exact List.mem_of_head? hq
  induction n generalizing p with
  | zero => exact hfail h
  | succ n ih =>
    rw [upTo, if_pos rfl, hfail h, Option.orElse_none]
    cases hl : text.toList.drop p.position with
    | nil => exact firstWay_other_end hl
    | cons c l =>
      rw [firstWay_other hl, if_neg (fun hc => h (by rw [hl, hc]; exact List.mem_cons_self)),
        if_pos (Nat.lt_succ_self _)]
      refine ih ?_
      rw [(getElem?_of_drop hl).2]
      exact fun hc => h (hl ▸ List.mem_cons_of_mem _ hc)

end

end Selenese.Regex
