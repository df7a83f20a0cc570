import Selenese.Pattern
import Selenese.Proofs.Pattern.Reach
import Selenese.Proofs.Text.Affix
import Selenese.Proofs.Text.CaseFold

/-!
# Selenese.Proofs.Pattern.Glob

What globs mean.

* `Glob.Fits g t`: the glob `g` describes the text `t` as a whole.
* `Glob.toList_source`: the two replacements turn the escaped wildcards into expressions and touch nothing
  else, whatever backslashes the glob holds.
* `Glob.parse_source`: the expression of a glob is read as one part for each character.
* `Glob.matches_parts`: these parts match what the glob describes.
* `Pattern.check_glob`: so a text matches a glob exactly if the glob describes it.
-/

namespace Selenese

namespace Glob

open Regex Text

/-- A star stands for any characters, a question mark for one, and any other character for itself or what
differs from it in case. -/
inductive Fits : List Char → List Char → Prop where
  | nil : Fits [] []
  | star {g t : List Char} (s : List Char) : Fits g t → Fits ('*' :: g) (s ++ t)
  | any {g t : List Char} (d : Char) : Fits g t → Fits ('?' :: g) (d :: t)
  | char {g t : List Char} {c d : Char} :
      c ≠ '*' → c ≠ '?' → sameFold c d = true → Fits g t → Fits (c :: g) (d :: t)

/-! ## The expression as a text -/

/-- What is written for a character of a glob. -/
def written (c : Char) : List Char :=
  if c = '*' then ['.', '*'] else if c = '?' then ['.'] else escaped [c]

theorem escaped_singleton (c : Char) : escaped [c] = if isMeta c then ['\\', c] else [c] := by
  simp [escaped]

theorem isMeta_star : isMeta '*' = true := by decide

theorem isMeta_mark : isMeta '?' = true := by decide

theorem isMeta_backslash : isMeta '\\' = true := by decide

/-- Replaces a wildcard in an escaped character that stands before other characters. -/
theorem replace_escaped {b c : Char} {new r : List Char} (hb : isMeta b = true) (hne : b ≠ '\\')
    (hr : r.head? ≠ some b) :
    Text.replace ['\\', b] new (escaped [c] ++ r) =
      (if c = b then new else escaped [c]) ++ Text.replace ['\\', b] new r := by
  rw [escaped_singleton]
  by_cases hcb : c = b
  · subst hcb
    simp [hb, replace_here]
  · by_cases hc : isMeta c = true
    · have hsecond : (c :: r).head? ≠ some b := by simpa using hcb
      simp [hc, hcb, replace_cons (.inr hsecond), replace_cons (.inr hr)]
    · have hfirst : c ≠ '\\' := by
        rintro rfl
        exact hc isMeta_backslash
      simp [hc, hcb, replace_cons (.inl hfirst)]

theorem head?_escaped {b c : Char} (hb : isMeta b = true) (hne : b ≠ '\\') (r : List Char) :
    (escaped [c] ++ r).head? ≠ some b := by
  rw [escaped_singleton]
  split
  · simpa using hne.symm
  · rename_i hc
    simp only [List.cons_append, List.head?_cons, ne_eq, Option.some.injEq]
    rintro rfl
    exact hc hb

theorem toList_source (g : String) : (source g).toList = '^' :: (g.toList.flatMap written ++ ['$']) := by
  have hstars (l : List Char) : Text.replace ['\\', '*'] ['.', '*'] (escaped l) =
      l.flatMap fun c => if c = '*' then ['.', '*'] else escaped [c] := by
    have hpieces : escaped l = l.flatMap fun c => escaped [c] := by simp [escaped]
    rw [hpieces]
    exact replace_flatMap (fun c r _ => head?_escaped isMeta_star (by decide) r)
      (fun c r hr => replace_escaped isMeta_star (by decide) hr) l
  have hmarks (l : List Char) : Text.replace ['\\', '?'] ['.']
      (l.flatMap fun c => if c = '*' then ['.', '*'] else escaped [c]) = l.flatMap written := by
    refine replace_flatMap (fun c r hr => ?_) (fun c r hr => ?_) l
    · split
      · simp
      · exact head?_escaped isMeta_mark (by decide) r
    · by_cases hc : c = '*'
      · simp [hc, written, replace_cons (.inl (show '.' ≠ '\\' by decide)),
          replace_cons (.inl (show '*' ≠ '\\' by decide))]
      · rw [if_neg hc, replace_escaped isMeta_mark (by decide) hr, written, if_neg hc]
  rw [source]
  simp only [String.toList_ofList]
  rw [hstars, hmarks, List.cons_append]

/-! ## The expression as it is read -/

def part (c : Char) : Regex :=
  if c = '*' then .repeat (.set .all) 0 none false
  else if c = '?' then .set .all
  else .set (.fold false (.single c))

/-- The parts of a glob, and then the end of the text. -/
def parts (g : List Char) : Regex := g.foldr (fun c r => .seq (part c) r) (.look .finish)

def expression (g : List Char) : Regex := .seq (.look .start) (parts g)

theorem head?_written (g : List Char) : (g.flatMap written ++ ['$']).head? ≠ some '?' := by
  cases g with
  | nil => decide
  | cons c r =>
    rw [List.flatMap_cons, List.append_assoc, written]
    split
    · simp
    · split
      · simp
      · exact head?_escaped isMeta_mark (by decide) _

theorem skip_flags (l : List Char) : flags.skip l = l := rfl

theorem preference_flags {r : List Char} (hr : r.head? ≠ some '?') :
    preference flags r = (false, r) := by
  unfold preference
  split
  · simp at hr
  · rfl

section

variable (n : Nat) (names : List (List Char)) (k : Nat) (r : List Char) (read : List (Option Regex))

theorem branch_literal {c : Char} (hc : isMeta c = false) :
    branch (n + 1) ⟨flags, names, k, c :: r⟩ read =
      branch n ⟨flags, names, k, r⟩ (some (.set (.fold false (.single c))) :: read) := by
  have hne : c ∉ "\\.+*?()|[]\x7b\x7d^$#&-~".toList := by simpa [isMeta] using hc
  simp only [String.reduceToList, List.mem_cons, not_or, List.not_mem_nil] at hne
  simp [branch, primitive, skip_flags, hne]
  rfl

theorem branch_escaped {c : Char} (hc : isMeta c = true) :
    branch (n + 1) ⟨flags, names, k, '\\' :: c :: r⟩ read =
      branch n ⟨flags, names, k, r⟩ (some (.set (.fold false (.single c))) :: read) := by
  have hdigit : c.isDigit = false := by
    have hall : "\\.+*?()|[]\x7b\x7d^$#&-~".toList.all (fun c => !c.isDigit) = true := by decide
    have hnot := List.all_eq_true.1 hall c (by simpa [isMeta] using hc)
    simpa using hnot
  have hescape : escape flags (c :: r) = .ok (.literal c, r) := by
    simp [escape, isEscapable, hc, hdigit]
  simp [branch, primitive, skip_flags, hescape, bind, Except.bind, pure, Except.pure]
  rfl

theorem branch_any :
    branch (n + 1) ⟨flags, names, k, '.' :: r⟩ read =
      branch n ⟨flags, names, k, r⟩ (some (.set .all) :: read) := by
  rw [branch]
  rfl

theorem branch_star {r : List Char} (hr : r.head? ≠ some '?') (e : Regex) :
    branch (n + 1) ⟨flags, names, k, '*' :: r⟩ (some e :: read) =
      branch n ⟨flags, names, k, r⟩ (some (.repeat e 0 none false) :: read) := by
  rw [branch]
  simp only [skip_flags, preference_flags hr]
  rfl

/-- What is written for one character is read as its part. One step is left over where an escaped
character is read at once. -/
theorem branch_written {r : List Char} (hr : r.head? ≠ some '?') (c : Char) :
    ∃ m, n ≤ m ∧ branch (n + (written c).length) ⟨flags, names, k, written c ++ r⟩ read =
      branch m ⟨flags, names, k, r⟩ (some (part c) :: read) := by
  unfold written part
  split
  · exact ⟨n, Nat.le_refl n, (branch_any (n + 1) ..).trans (branch_star n names k read hr _)⟩
  · split
    · exact ⟨n, Nat.le_refl n, branch_any ..⟩
    · rw [escaped_singleton]
      split
      · rename_i hc
        exact ⟨n + 1, Nat.le_succ n, branch_escaped _ _ _ _ _ hc⟩
      · rename_i hc
        exact ⟨n, Nat.le_refl n, branch_literal _ _ _ _ _ (by simpa using hc)⟩

end

/-- The parts come latest first, and the end of the text before them. -/
theorem branch_source (n : Nat) (names : List (List Char)) (k : Nat) (g : List Char)
    (read : List (Option Regex)) :
    branch (n + (g.flatMap written).length + 2) ⟨flags, names, k, g.flatMap written ++ ['$']⟩ read =
      .ok (sequence (some (.look .finish) :: ((g.map fun c => some (part c)).reverse ++ read)),
        ⟨flags, names, k, []⟩) := by
  induction g generalizing n read with
  | nil =>
    show branch (n + 1 + 1) ⟨flags, names, k, '$' :: []⟩ read = _
    rw [branch]
    show branch (n + 1) ⟨flags, names, k, []⟩ (some (.look .finish) :: read) = _
    rw [branch]
    rfl
  | cons c r ih =>
    have hlength : n + ((c :: r).flatMap written).length + 2 =
        n + (r.flatMap written).length + 2 + (written c).length := by
      rw [List.flatMap_cons, List.length_append]
      omega
    rw [hlength, List.flatMap_cons, List.append_assoc]
    obtain ⟨m, hm, hbranch⟩ := branch_written (n + (r.flatMap written).length + 2) names k read
      (head?_written r) c
    obtain ⟨d, rfl⟩ := Nat.exists_eq_add_of_le hm
    have hfuel : n + (r.flatMap written).length + 2 + d = n + d + (r.flatMap written).length + 2 := by
      omega
    rw [hbranch, hfuel, ih]
    simp

theorem sequence_source (g : List Char) :
    Regex.sequence (some (.look .finish) ::
      ((g.map fun c => some (part c)).reverse ++ [some (.look .start)])) = expression g := by
  simp [Regex.sequence, List.foldl_append, List.foldl_reverse, List.foldr_map, expression, parts]

theorem depth_parts (g : List Char) : (parts g).depth true false ≤ 1 := by
  induction g with
  | nil => simp [parts, depth]
  | cons c r ih =>
    have hpart : (part c).depth true false ≤ 1 := by
      unfold part
      split
      · simp [depth, CharSet.depth]
      · split <;> simp [depth, CharSet.depth, CharSet.single]
    show max ((part c).depth true false) ((parts r).depth true false) + 0 ≤ 1
    omega

theorem alternation_source (g : String) :
    alternation (2 * (source g).toList.length + 2) ⟨flags, [], 0, (source g).toList⟩ =
      .ok (expression g.toList, ⟨flags, [], 0, []⟩) := by
  have hfuel : 2 * (source g).toList.length + 2 =
      (g.toList.flatMap written).length + 2 + (g.toList.flatMap written).length + 2 + 1 + 1 := by
    rw [toList_source]
    simp only [List.length_cons, List.length_append, List.length_nil]
    omega
  have hbranch : branch ((g.toList.flatMap written).length + 2 + (g.toList.flatMap written).length +
        2 + 1) ⟨flags, [], 0, '^' :: (g.toList.flatMap written ++ ['$'])⟩ [] =
      .ok (expression g.toList, ⟨flags, [], 0, []⟩) := by
    rw [← sequence_source]
    exact branch_source _ [] 0 g.toList [some (.look .start)]
  rw [hfuel, toList_source, alternation, hbranch]
  rfl

theorem parse_source (g : String) : parse flags (source g) = .ok (expression g.toList) := by
  have hdepth : ¬ depthLimit < (expression g.toList).depth false false := by
    have := depth_parts g.toList
    show ¬ 250 < max 0 ((parts g.toList).depth true false) + 1
    omega
  unfold parse
  dsimp only
  rw [alternation_source]
  simp [hdepth, bind, Except.bind, pure, Except.pure]

theorem compile_eq (g : String) :
    compile g = if sizeLimit < (expression g.toList).weight then .error .tooLarge
      else .ok (expression g.toList) := by
  rw [compile, compileWith, parse_source]

/-! ## The texts that match -/

theorem orderly_expression (g : List Char) : (expression g).Orderly := by
  refine ⟨trivial, ?_⟩
  induction g with
  | nil => trivial
  | cons c r ih =>
    refine ⟨?_, ih⟩
    unfold part
    split
    · exact ⟨trivial, fun m hm => by cases hm⟩
    · split <;> trivial

variable {text : Array Char} {i j : Nat}

theorem matches_set_iff {s : CharSet} :
    Matches text (.set s) i j ↔ ∃ c, text[i]? = some c ∧ s.mem c = true ∧ j = i + 1 := by
  constructor
  · intro h
    cases h with
    | set hc hs => exact ⟨_, hc, hs, rfl⟩
  · rintro ⟨c, hc, hs, rfl⟩
    exact .set hc hs

/-- A star takes up any number of characters that are left. -/
theorem matches_star_iff :
    Matches text (.repeat (.set .all) 0 none false) i j ↔ ∃ n, j = i + n ∧ (n = 0 ∨ j ≤ text.size) := by
  rw [matches_repeat_iff]
  constructor
  · rintro ⟨n, -, -, hsteps⟩
    refine ⟨n, ?_⟩
    induction hsteps with
    | zero => simp
    | succ hfirst _ ih =>
      obtain ⟨c, hc, -, rfl⟩ := matches_set_iff.1 hfirst
      have := (Array.getElem?_eq_some_iff.1 hc).1
      omega
  · rintro ⟨n, rfl, hn⟩
    refine ⟨n, Nat.zero_le n, (fun _ h => by cases h), ?_⟩
    induction n generalizing i with
    | zero => exact .zero
    | succ n ih =>
      have hi : i < text.size := by omega
      have hrest := ih (i := i + 1) (by omega)
      rw [Nat.add_assoc, Nat.add_comm 1 n] at hrest
      exact .succ (matches_set_iff.2 ⟨text[i], by simp [hi], rfl, rfl⟩) hrest

theorem fits_nil_iff {t : List Char} : Fits [] t ↔ t = [] := by
  constructor
  · intro h
    cases h
    rfl
  · rintro rfl
    exact .nil

theorem fits_star_iff {g t : List Char} : Fits ('*' :: g) t ↔ ∃ n, n ≤ t.length ∧ Fits g (t.drop n) := by
  constructor
  · intro h
    cases h with
    | star s hg => exact ⟨s.length, by simp, by simpa using hg⟩
    | char hne => exact absurd rfl hne
  · rintro ⟨n, -, hg⟩
    rw [← List.take_append_drop n t]
    exact .star _ hg

theorem fits_cons_iff {g t : List Char} {c : Char} (hc : c ≠ '*') :
    Fits (c :: g) t ↔ ∃ d r, t = d :: r ∧ (c = '?' ∨ sameFold c d = true) ∧ Fits g r := by
  constructor
  · intro h
    cases h with
    | star => exact absurd rfl hc
    | any d hg => exact ⟨d, _, rfl, .inl rfl, hg⟩
    | char _ _ hsame hg => exact ⟨_, _, rfl, .inr hsame, hg⟩
  · rintro ⟨d, r, rfl, hd, hg⟩
    by_cases hmark : c = '?'
    · subst hmark
      exact .any d hg
    · exact .char hc hmark (hd.resolve_left hmark) hg

/-- The part of a character other than a star takes up the characters that it stands for. -/
theorem part_of_ne {c : Char} (hc : c ≠ '*') :
    ∃ s, part c = .set s ∧ ∀ d, s.mem d = true ↔ c = '?' ∨ sameFold c d = true := by
  unfold part
  rw [if_neg hc]
  by_cases hmark : c = '?'
  · exact ⟨.all, by rw [if_pos hmark], fun d => by simp [hmark, CharSet.mem]⟩
  · exact ⟨.fold false (.single c), by rw [if_neg hmark], fun d => by simp [hmark, CharSet.mem_fold_single]⟩

theorem matches_parts (g t : List Char) (hi : i ≤ t.length) :
    (∃ j, Matches t.toArray (parts g) i j) ↔ Fits g (t.drop i) := by
  induction g generalizing i with
  | nil =>
    rw [fits_nil_iff, List.drop_eq_nil_iff]
    constructor
    · rintro ⟨j, h⟩
      cases h with
      | look hl => simpa [Look.holds] using hl
    · intro h
      exact ⟨i, .look (by simpa [Look.holds] using h)⟩
  | cons c g ih =>
    have hseq : (∃ k, Matches t.toArray (parts (c :: g)) i k) ↔
        ∃ j, Matches t.toArray (part c) i j ∧ ∃ k, Matches t.toArray (parts g) j k := by
      constructor
      · rintro ⟨k, h⟩
        cases h with
        | seq hfirst hrest => exact ⟨_, hfirst, k, hrest⟩
      · rintro ⟨j, hfirst, k, hrest⟩
        exact ⟨k, .seq hfirst hrest⟩
    rw [hseq]
    by_cases hstar : c = '*'
    · subst hstar
      have hpart : part '*' = .repeat (.set .all) 0 none false := rfl
      rw [fits_star_iff, hpart]
      simp only [matches_star_iff, List.size_toArray, List.length_drop, List.drop_drop]
      constructor
      · rintro ⟨j, ⟨n, rfl, hn⟩, hrest⟩
        exact ⟨n, by omega, (ih (by omega)).1 hrest⟩
      · rintro ⟨n, hn, hrest⟩
        exact ⟨i + n, ⟨n, rfl, by omega⟩, (ih (by omega)).2 hrest⟩
    · obtain ⟨s, hpart, hs⟩ := part_of_ne hstar
      rw [fits_cons_iff hstar, hpart]
      simp only [matches_set_iff, hs, List.getElem?_toArray]
      constructor
      · rintro ⟨j, ⟨d, hd, hc, rfl⟩, hrest⟩
        obtain ⟨hlt, rfl⟩ := List.getElem?_eq_some_iff.1 hd
        exact ⟨_, _, List.drop_eq_getElem_cons hlt, hc, (ih hlt).1 hrest⟩
      · rintro ⟨d, r, hdrop, hc, hrest⟩
        have hd : t[i]? = some d := by rw [← List.head?_drop, hdrop, List.head?_cons]
        have hr : t.drop (i + 1) = r := by rw [← List.tail_drop, hdrop, List.tail_cons]
        obtain ⟨hlt, -⟩ := List.getElem?_eq_some_iff.1 hd
        exact ⟨i + 1, ⟨d, hd, hc, rfl⟩, (ih hlt).2 (hr ▸ hrest)⟩

theorem search_expression (g t : String) :
    (expression g.toList).search t = true ↔ Fits g.toList t.toList := by
  rw [search_iff (orderly_expression _), ← List.drop_zero (l := t.toList),
    ← matches_parts g.toList t.toList (Nat.zero_le _), List.drop_zero]
  constructor
  · rintro ⟨i, hi, j, h⟩
    cases h with
    | seq hstart hrest =>
      cases hstart with
      | look hl =>
        have hzero : i = 0 := by
          by_contra hne
          have hlt : i - 1 < t.toList.length := by omega
          simp [Look.holds, hne, List.getElem?_eq_getElem hlt] at hl
        subst hzero
        exact ⟨j, hrest⟩
  · rintro ⟨j, h⟩
    exact ⟨0, Nat.zero_le _, j, .seq (.look rfl) h⟩

end Glob

namespace Pattern

open Glob

theorem split_glob (g : String) : split ("glob:" ++ g) = (.glob, g) := by
  have hexact : Text.afterPrefix? "exact:" ("glob:" ++ g) = none := by
    rw [Text.afterPrefix?, String.toList_append]
    rfl
  rw [split, hexact, Text.afterPrefix?_append]

theorem check_of_compile {g t : String} {r : Regex} (h : Glob.compile g = .ok r) :
    check t ("glob:" ++ g) = if r.search t then .ok () else .error (.different .glob g t) := by
  have htest : test t g .glob = .ok (r.search t) := by rw [test, h]; rfl
  rw [check, split_glob]
  simp only [htest]
  cases r.search t <;> rfl

/-- **A glob matches the texts that it describes, and no others.** Unless its expression is too large, a
glob can be read, whatever characters it holds. A text matches it exactly if the glob describes the whole
text: a star stands for any characters, line ends too, a question mark for one, and every other
character, a backslash before a wildcard too, for what equals it up to case. A text that does not match is
reported with the glob.

Too large means too large by `Regex.weight`, which only estimates the size that the limit is about. Nothing
else here depends on the estimate. -/
theorem check_glob (g t : String) (hsize : Glob.compile g ≠ .error .tooLarge) :
    (∃ r, Glob.compile g = .ok r) ∧
      (check t ("glob:" ++ g) = .ok () ↔ Fits g.toList t.toList) ∧
      (¬ Fits g.toList t.toList → check t ("glob:" ++ g) = .error (.different .glob g t)) := by
  have hcompile : Glob.compile g = .ok (expression g.toList) := by
    rw [compile_eq] at hsize ⊢
    split at hsize
    · exact absurd rfl hsize
    · rename_i hlimit
      rw [if_neg hlimit]
  rw [check_of_compile hcompile, ← search_expression]
  refine ⟨⟨_, hcompile⟩, ?_, ?_⟩
  · split <;> simp [*]
  · intro hnot
    rw [if_neg hnot]

/-- A glob with backslashes before its wildcards and with brackets, and a text of two lines that differs
from it in case, once by the sign for kelvin. -/
theorem check_glob_backslashes :
    Glob.compile "C:\\*\\?[k]" ≠ .error .tooLarge ∧
      Fits "C:\\*\\?[k]".toList "c:\\a\n\\b[\u212a]".toList ∧
      check "c:\\a\n\\b[\u212a]" ("glob:" ++ "C:\\*\\?[k]") = .ok () := by
  have hsize : Glob.compile "C:\\*\\?[k]" ≠ .error .tooLarge := by
    rw [compile_eq, if_neg (by decide +kernel)]
    simp
  have hself (c : Char) {u v : List Char} (hc : c ≠ '*' ∧ c ≠ '?') (h : Fits u v) :
      Fits (c :: u) (c :: v) := .char hc.1 hc.2 (beq_self_eq_true _) h
  have hend : Fits ['[', 'k', ']'] ['[', '\u212a', ']'] :=
    hself '[' (by decide) (.char (by decide) (by decide) (by decide +kernel) (hself ']' (by decide) .nil))
  have hpath : Fits ['\\', '*', '\\', '?', '[', 'k', ']'] ['\\', 'a', '\n', '\\', 'b', '[', '\u212a', ']'] :=
    hself '\\' (by decide) (.star ['a', '\n'] (hself '\\' (by decide) (.any 'b' hend)))
  have hfits : Fits "C:\\*\\?[k]".toList "c:\\a\n\\b[\u212a]".toList := by
    simp only [String.reduceToList]
    exact .char (by decide) (by decide) (by decide +kernel) (hself ':' (by decide) hpath)
  exact ⟨hsize, hfits, (check_glob _ _ hsize).2.1.2 hfits⟩

end Pattern

end Selenese
