import Selenese.Proofs.Pattern.Find
import Selenese.Variables

/-!
# Selenese.Proofs.Variables

What the expansion of a text is.

* `Begins l name rest`: a placeholder stands at the beginning of `l`.
* `Cut l ps`: the text `l`, read once from the left, falls into the pieces `ps`, which are placeholders and
  single characters.
* `matchAt_placeholder`: the expression finds a placeholder where one begins, and nowhere else.
* `expand_cut`: every text is cut in one way only, and expanding it fills in the pieces of its cut.
* `slot?_set`, `slot?_unset`: what a slot holds after one was written.
-/

namespace Selenese

namespace Variables

open Regex

/-! ## Slots -/

theorem find?_put (key key' : String) (value : Option String) (l : List (String × Option String)) :
    ((put key value l).find? fun s => s.1 = key').map Prod.snd =
      if key' = key then some value else (l.find? fun s => s.1 = key').map Prod.snd := by
  induction l with
  | nil => grind [put]
  | cons s r ih => grind [put]

theorem slot?_set (v : Variables) (name value key : String) :
    (v.set name value).slot? key = if key = Text.lowercase name then some (some value) else v.slot? key :=
  find?_put _ _ _ _

theorem slot?_unset (v : Variables) (name key : String) :
    (v.unset name).slot? key = if key = Text.lowercase name then some none else v.slot? key :=
  find?_put _ _ _ _

/-! ## Pieces of a text -/

/-- A dollar sign, and between braces a name that is not empty. -/
structure Begins (l name rest : List Char) : Prop where
  eq : l = '$' :: '\x7b' :: (name ++ '\x7d' :: rest)
  ne : name ≠ []
  not_mem : '\x7d' ∉ name

inductive Piece where
  | char (c : Char)
  | placeholder (name : List Char)

/-- A placeholder is taken off as a whole where one begins, any other character as it is. -/
inductive Cut : List Char → List Piece → Prop
  | nil : Cut [] []
  | placeholder {l name rest : List Char} {ps : List Piece} :
      Begins l name rest → Cut rest ps → Cut l (.placeholder name :: ps)
  | char {c : Char} {rest : List Char} {ps : List Piece} :
      (∀ name rest', ¬ Begins (c :: rest) name rest') → Cut rest ps → Cut (c :: rest) (.char c :: ps)

/-- What a piece becomes: the value in the slot of the name in lower case, or nothing without one. -/
def fill (v : Variables) : Piece → List Char
  | .char c => [c]
  | .placeholder name =>
    match v.slot? (Text.lowercase (String.ofList name)) with
    | some (some value) => value.toList
    | _ => []

theorem Begins.unique {l name name' rest rest' : List Char} (h : Begins l name rest)
    (h' : Begins l name' rest') : name = name' ∧ rest = rest' := by
  have hname {name rest : List Char} (h : Begins l name rest) :
      (l.drop 2).takeWhile (fun c => c != '\x7d') = name := by
    rw [h.eq, List.drop_succ_cons, List.drop_succ_cons, List.drop_zero,
      List.takeWhile_append_of_pos fun c hc => bne_iff_ne.mpr (ne_of_mem_of_not_mem hc h.not_mem),
      List.takeWhile_cons_of_neg (by decide), List.append_nil]
  have heq : name = name' := (hname h).symm.trans (hname h')
  subst heq
  have hrest := h.eq.symm.trans h'.eq
  exact ⟨rfl, by simpa using hrest⟩

theorem not_begins_of_ne {c : Char} {l name rest : List Char} (h : c ≠ '$') : ¬ Begins (c :: l) name rest :=
  fun hb => h (List.cons.inj hb.eq).1

theorem not_begins_empty {l name rest : List Char} : ¬ Begins ('$' :: '\x7b' :: '\x7d' :: l) name rest := by
  intro hb
  obtain ⟨c, s, rfl⟩ := List.exists_cons_of_ne_nil hb.ne
  have heq := hb.eq
  simp only [List.cons_append, List.cons.injEq, true_and] at heq
  exact hb.not_mem (heq.1 ▸ List.mem_cons_self)

theorem not_begins_of_not_mem {l name rest : List Char} (h : '\x7d' ∉ l) : ¬ Begins l name rest := by
  intro hb
  rw [hb.eq] at h
  simp at h

theorem Begins.append {l name rest : List Char} (h : Begins l name rest) (tail : List Char) :
    Begins (l ++ tail) name (rest ++ tail) :=
  ⟨by rw [h.eq]; simp, h.ne, h.not_mem⟩

/-- A placeholder ends with a closing brace, so it does not reach into a text without one. -/
theorem Begins.of_append {l name rest tail : List Char} (h : Begins (l ++ tail) name rest)
    (htail : '\x7d' ∉ tail) : ∃ rest', Begins l name rest' := by
  have heq : l ++ tail = ('$' :: '\x7b' :: name ++ ['\x7d']) ++ rest := by
    rw [h.eq]
    simp
  obtain ⟨s, hs, ht⟩ | ⟨s, hs, -⟩ := List.append_eq_append_iff.mp heq
  · cases s using List.reverseRecOn with
    | nil => exact ⟨[], by simpa using hs.symm, h.ne, h.not_mem⟩
    | append_singleton s c =>
      rw [← List.append_assoc] at hs
      have hc : c = '\x7d' := by simpa using (List.append_inj' hs rfl).2.symm
      exact absurd (by simp [ht, hc]) htail
  · exact ⟨s, by rw [hs]; simp, h.ne, h.not_mem⟩

theorem Cut.unique {l : List Char} {ps ps' : List Piece} (h : Cut l ps) (h' : Cut l ps') : ps' = ps := by
  induction h generalizing ps' with
  | nil =>
    cases h' with
    | nil => rfl
    | placeholder hb _ => exact absurd hb.eq (by simp)
  | placeholder hb _ ih =>
    cases h' with
    | nil => exact absurd hb.eq (by simp)
    | placeholder hb' hc' =>
      obtain ⟨rfl, rfl⟩ := hb.unique hb'
      rw [ih hc']
    | char hno _ => exact absurd hb (hno _ _)
  | char hno _ ih =>
    cases h' with
    | placeholder hb' _ => exact absurd hb' (hno _ _)
    | char _ hc' => rw [ih hc']

theorem Begins.length_lt {l name rest : List Char} (h : Begins l name rest) : rest.length < l.length := by
  rw [h.eq]
  simp only [List.length_cons, List.length_append]
  omega

theorem exists_cut (l : List Char) : ∃ ps, Cut l ps := by
  induction hn : l.length using Nat.strongRecOn generalizing l with
  | ind n ih =>
    subst hn
    by_cases hb : ∃ name rest, Begins l name rest
    · obtain ⟨name, rest, hb⟩ := hb
      obtain ⟨ps, hc⟩ := ih _ hb.length_lt rest rfl
      exact ⟨_, .placeholder hb hc⟩
    · cases l with
      | nil => exact ⟨_, .nil⟩
      | cons c rest =>
        obtain ⟨ps, hc⟩ := ih _ (Nat.lt_succ_self _) rest rfl
        exact ⟨_, .char (fun name rest' h => hb ⟨name, rest', h⟩) hc⟩

theorem cut_of_forall {l : List Char} (h : ∀ i name rest, ¬ Begins (l.drop i) name rest) :
    Cut l (l.map .char) := by
  induction l with
  | nil => exact .nil
  | cons c l ih => exact .char (h 0) (ih fun i => h (i + 1))

theorem cut_of_not_mem {l : List Char} (h : '\x7d' ∉ l) : Cut l (l.map .char) :=
  cut_of_forall fun _ _ _ => not_begins_of_not_mem fun hl => h (List.mem_of_mem_drop hl)

theorem Cut.append {l tail : List Char} {ps : List Piece} (h : Cut l ps) (htail : '\x7d' ∉ tail) :
    Cut (l ++ tail) (ps ++ tail.map .char) := by
  induction h with
  | nil => exact cut_of_not_mem htail
  | placeholder hb _ ih => exact .placeholder (hb.append tail) ih
  | char hno _ ih =>
    refine .char (fun name rest hb => ?_) ih
    obtain ⟨rest', hb'⟩ := Begins.of_append (l := _ :: _) hb htail
    exact hno name rest' hb'

theorem Cut.empty {l : List Char} {ps : List Piece} (h : Cut l ps) :
    Cut (['$', '\x7b', '\x7d'] ++ l) (['$', '\x7b', '\x7d'].map .char ++ ps) :=
  .char (fun _ _ => not_begins_empty) (.char (fun _ _ => not_begins_of_ne (by decide))
    (.char (fun _ _ => not_begins_of_ne (by decide)) h))

/-! ## The expression of placeholders -/

theorem placeholder_eq :
    placeholder = .seq (char '$') (.seq (char '\x7b') (.seq (.group (some 1)
      (.repeat (other '\x7d') 1 none true)) (char '\x7d'))) := rfl

section

variable {text : Array Char} {i : Nat} {l name rest : List Char}

/-- The closing brace behind a name that began at `i`. -/
def closing (text : Array Char) (i : Nat) (p : Place) : Option Place :=
  firstWay text (char '\x7d') some { p with groups := (1, i, p.position) :: p.groups }

theorem closing_eq_none (i : Nat) (p : Place) (h : text[p.position]? ≠ some '\x7d') :
    closing text i p = none := by
  rw [closing, firstWay_char, if_neg h]

theorem firstWay_placeholder (text : Array Char) (i : Nat) :
    firstWay text placeholder some ⟨i, []⟩ =
      if text[i]? = some '$' then
        if text[i + 1]? = some '\x7b' then
          firstWay text (other '\x7d')
            (upTo (firstWay text (other '\x7d')) true text.size (closing text (i + 2))) ⟨i + 2, []⟩
        else none
      else none := by
  rw [placeholder_eq, firstWay, firstWay_char, firstWay, firstWay_char]
  rfl

theorem matchAt_of_begins (h : Begins (text.toList.drop i) name rest) :
    matchAt placeholder text i = some ⟨i, i + name.length + 3, [(1, i + 2, i + 2 + name.length)]⟩ := by
  have hdollar := getElem?_of_drop h.eq
  have hbrace := getElem?_of_drop hdollar.2
  obtain ⟨c, s, rfl⟩ := List.exists_cons_of_ne_nil h.ne
  have hc : c ≠ '\x7d' := fun hc => h.not_mem (hc ▸ List.mem_cons_self)
  have hs : '\x7d' ∉ s := fun hs => h.not_mem (List.mem_cons_of_mem _ hs)
  have hname : _ ∧ _ = s ++ '\x7d' :: rest := getElem?_of_drop hbrace.2
  have hsize : s.length ≤ text.size := by
    have hlength := congrArg List.length hname.2
    simp at hlength
    omega
  have hclose : text[i + 3 + s.length]? = some '\x7d' := by
    have hdrop := congrArg (List.drop s.length) hname.2
    rw [List.drop_drop, List.drop_left] at hdrop
    exact (getElem?_of_drop hdrop).1
  rw [matchAt, firstWay_placeholder, if_pos hdollar.1, if_pos hbrace.1, firstWay_other hbrace.2, if_neg hc,
    upTo_until (closing_eq_none _) hname.2 hs hsize, closing, firstWay_char, if_pos hclose]
  have hstop : i + 3 + s.length + 1 = i + (c :: s).length + 3 := by
    rw [List.length_cons]
    omega
  have hgroup : i + 3 + s.length = i + 2 + (c :: s).length := by
    rw [List.length_cons]
    omega
  rw [Option.map_some, ← hgroup, ← hstop]

theorem matchAt_eq_none (h : ∀ name rest, ¬ Begins (text.toList.drop i) name rest) :
    matchAt placeholder text i = none := by
  rw [matchAt, firstWay_placeholder]
  by_cases hdollar : text[i]? = some '$'
  · by_cases hbrace : text[i + 1]? = some '\x7b'
    · rw [if_pos hdollar, if_pos hbrace, Option.map_eq_none_iff]
      cases hl : text.toList.drop (i + 2) with
      | nil => exact firstWay_other_end hl
      | cons c l =>
        rw [firstWay_other hl]
        split
        · rfl
        · rename_i hc
          refine upTo_unclosed (closing_eq_none _) ?_
          rw [(getElem?_of_drop hl).2]
          intro hmem
          obtain ⟨s, rest, rfl, hs⟩ := List.eq_append_cons_of_mem hmem
          refine h (c :: s) rest ⟨?_, List.cons_ne_nil c s, ?_⟩
          · rw [drop_of_getElem? hdollar, drop_of_getElem? hbrace, hl, List.cons_append]
          · exact List.not_mem_cons_of_ne_of_not_mem (Ne.symm hc) hs
    · rw [if_pos hdollar, if_neg hbrace]
      rfl
  · rw [if_neg hdollar]
    rfl

end

theorem advances_placeholder : placeholder.Advances := by
  intro text i m hm
  by_cases hb : ∃ name rest, Begins (text.toList.drop i) name rest
  · obtain ⟨name, rest, hb⟩ := hb
    rw [matchAt_of_begins hb, Option.some.injEq] at hm
    subst hm
    show i < i + name.length + 3
    omega
  · rw [matchAt_eq_none fun name rest h => hb ⟨name, rest, h⟩] at hm
    cases hm

/-! ## Filling in the pieces -/

theorem fill_placeholder (v : Variables) (name : List Char) :
    v.fill (.placeholder name) = ((v.get? (String.ofList name)).getD "").toList := by
  rw [fill, get?]
  rcases v.slot? (Text.lowercase (String.ofList name)) with _ | _ | value <;> rfl

theorem flatMap_fill_char (v : Variables) (l : List Char) : (l.map .char).flatMap v.fill = l := by
  induction l with
  | nil => rfl
  | cons c l ih => rw [List.map_cons, List.flatMap_cons, ih]; rfl

/-- By induction on the cut, at every position where it may begin. -/
theorem replacedFrom_cut (v : Variables) {text : Array Char} {l : List Char} {ps : List Piece} (h : Cut l ps)
    {i : Nat} (hi : text.toList.drop i = l) :
    replacedFrom placeholder text
        (fun m => (((m.group? text 1).bind fun name => v.get? (String.ofList name)).getD "").toList) i =
      ps.flatMap v.fill := by
  induction h generalizing i with
  | nil =>
    exact advances_placeholder.replacedFrom_end (matchAt_eq_none (hi ▸ fun _ _ => not_begins_of_not_mem
      List.not_mem_nil)) hi
  | @placeholder l name rest ps hb _ ih =>
    have hsize : i ≤ text.size := (lt_size_of_drop (hi.trans hb.eq)).le
    have hname : text.toList.drop (i + 2) = name ++ '\x7d' :: rest :=
      (getElem?_of_drop (getElem?_of_drop (hi.trans hb.eq)).2).2
    have hbrace : text.toList.drop (i + 2 + name.length) = '\x7d' :: rest := by
      rw [← List.drop_drop, hname, List.drop_left]
    have hrest : text.toList.drop (i + name.length + 3) = rest := by
      rw [← (getElem?_of_drop hbrace).2]
      congr 1
      omega
    rw [advances_placeholder.replacedFrom_here (matchAt_of_begins (hi ▸ hb)) hsize, List.flatMap_cons,
      fill_placeholder, ih hrest, Match.group?]
    show (((some (slice text (i + 2) (i + 2 + name.length))).bind _).getD "").toList ++ _ = _
    rw [slice_of_drop hname, Option.bind_some]
  | char hno _ ih =>
    rw [advances_placeholder.replacedFrom_next (matchAt_eq_none (hi ▸ hno)) hi,
      ih (getElem?_of_drop hi).2]
    rfl

theorem expand_of_cut (v : Variables) {raw : String} {ps : List Piece} (h : Cut raw.toList ps) :
    v.expand raw = String.ofList (ps.flatMap v.fill) := by
  have hpieces := replacedFrom_cut v h (List.drop_zero : raw.toList.toArray.toList.drop 0 = raw.toList)
  rw [← String.ofList_toList (s := v.expand raw), expand, advances_placeholder.toList_replaceAll, hpieces]

theorem flatMap_fill_congr {v w : Variables} {ps : List Piece}
    (h : ∀ name, .placeholder name ∈ ps → w.get? (String.ofList name) = v.get? (String.ofList name)) :
    ps.flatMap w.fill = ps.flatMap v.fill := by
  refine List.flatMap_congr fun p hp => ?_
  cases p with
  | char c => rfl
  | placeholder name => rw [fill_placeholder, fill_placeholder, h name hp]

/-- **A text is read once, and its placeholders are replaced on the way.** It is cut into pieces in one way
only, and expanding it puts the values in place of the placeholders among them. No other variable matters,
a text without a placeholder stays as it is, and so do empty braces and what follows the last placeholder
without a closing brace. -/
theorem expand_cut (raw : String) :
    ∃ ps, (∀ ps', Cut raw.toList ps' ↔ ps' = ps) ∧
      ∀ v : Variables,
        v.expand raw = String.ofList (ps.flatMap v.fill) ∧
        (∀ w : Variables, (∀ name, .placeholder name ∈ ps →
          w.get? (String.ofList name) = v.get? (String.ofList name)) → w.expand raw = v.expand raw) ∧
        ((∀ i name rest, ¬ Begins (raw.toList.drop i) name rest) → v.expand raw = raw) ∧
        v.expand ("$\x7b\x7d" ++ raw) = "$\x7b\x7d" ++ v.expand raw ∧
        ∀ tail : String, '\x7d' ∉ tail.toList → v.expand (raw ++ tail) = v.expand raw ++ tail := by
  obtain ⟨ps, hcut⟩ := exists_cut raw.toList
  refine ⟨ps, fun ps' => ⟨hcut.unique, fun h => h ▸ hcut⟩, fun v => ⟨expand_of_cut v hcut, ?_, ?_, ?_, ?_⟩⟩
  · intro w h
    rw [expand_of_cut w hcut, expand_of_cut v hcut, flatMap_fill_congr h]
  · intro h
    rw [expand_of_cut v (cut_of_forall h), flatMap_fill_char, String.ofList_toList]
  · have hbraces : "$\x7b\x7d" = String.ofList ['$', '\x7b', '\x7d'] := rfl
    have hcut' : Cut ("$\x7b\x7d" ++ raw).toList (['$', '\x7b', '\x7d'].map .char ++ ps) := by
      rw [String.toList_append, hbraces, String.toList_ofList]
      exact hcut.empty
    rw [expand_of_cut v hcut', expand_of_cut v hcut, List.flatMap_append, flatMap_fill_char, String.ofList_append,
      hbraces]
  · intro tail htail
    have hcut' : Cut (raw ++ tail).toList (ps ++ tail.toList.map .char) := by
      rw [String.toList_append]
      exact hcut.append htail
    rw [expand_of_cut v hcut', expand_of_cut v hcut, List.flatMap_append, flatMap_fill_char, String.ofList_append,
      String.ofList_toList]

example : ((empty.set "a" "$\x7bb\x7d").set "b" "x").expand "$\x7bA\x7d$\x7b\x7d$\x7ba$\x7bb\x7d$\x7bb" =
    "$\x7bb\x7d$\x7b\x7d$\x7bb" := by decide +kernel

end Variables

end Selenese
