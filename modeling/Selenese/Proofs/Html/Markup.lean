import Mathlib.Data.List.Basic
import Mathlib.Data.List.TakeDrop
import Mathlib.Tactic.SplitIfs
import Selenese.Html.Token
import Selenese.Proofs.Text.Affix

/-!
# Selenese.Proofs.Html.Markup

How pages are written, and the tokens that what is written is read as.

* `escape` writes a text: four characters are written as references. `openTag`, `closeTag` and `voidTag` write
  tags.
* `CharRef.longest?_closed`: a name that is written with its semicolon is read as it stands.
* `dataTokens_escapeChar`, `textTokens_escapeChar`: a character that is written is read, wherever it stands.
* `dataTokens_openTag`, `dataTokens_closeTag`, `dataTokens_voidTag`: and so are tags, with their attributes.
-/

namespace Selenese

/-! ## What stands before a character -/

theorem takeWhile_ne_append {d : Char} {l : List Char} (h : d ∉ l) (r : List Char) :
    (l ++ d :: r).takeWhile (· ≠ d) = l := by
  rw [List.takeWhile_append_of_pos fun c hc => decide_eq_true (ne_of_mem_of_not_mem hc h),
    List.takeWhile_cons_of_neg (by simp), List.append_nil]

theorem dropWhile_ne_append {d : Char} {l : List Char} (h : d ∉ l) (r : List Char) :
    (l ++ d :: r).dropWhile (· ≠ d) = d :: r := by
  rw [List.dropWhile_append_of_pos fun c hc => decide_eq_true (ne_of_mem_of_not_mem hc h),
    List.dropWhile_cons_of_neg (by simp)]

/-! ## Names of references -/

namespace CharRef

theorem closedAt_eq {name : List Char} (hname : ';' ∉ name) {e : String × List Nat} (he : ';' ∉ e.1.toList)
    (rest : List Char) : closedAt (name ++ ';' :: rest) e =
      if e.1.toList = name then some ⟨e.2.map Char.ofNat, true, rest⟩ else none := by
  rw [closedAt]
  by_cases h : e.1.toList = name
  · rw [if_pos h, h, Text.isPrefixOf?_append]
    rfl
  · rw [if_neg h]
    split
    · next r hr =>
      have hsame := congrArg (List.takeWhile (· ≠ ';')) (List.isPrefixOf?_eq_some_iff_append_eq.1 hr)
      rw [takeWhile_ne_append he, takeWhile_ne_append hname] at hsame
      exact absurd hsame h
    · rfl

/-- A name that is written with its semicolon is read as it stands, since no name in the table holds one. -/
theorem longest?_closed {c : Char} {name chars : List Char} (hname : ';' ∉ c :: name)
    (htable : ∀ e ∈ namesUnder c, ';' ∉ e.1.toList) (hchars : named? (c :: name) = some chars) (rest : List Char) :
    longest? (c :: name ++ ';' :: rest) = some ⟨chars, true, rest⟩ := by
  have hfirst : (namesUnder c).findSome? (closedAt (c :: name ++ ';' :: rest)) = some ⟨chars, true, rest⟩ := by
    rw [named?] at hchars
    generalize namesUnder c = table at htable hchars
    induction table with
    | nil => cases hchars
    | cons e table ih =>
      rw [List.findSome?_cons, closedAt_eq hname (htable e List.mem_cons_self)]
      by_cases he : e.1.toList = c :: name
      · rw [List.find?_cons_of_pos (by simpa using he), Option.map_some] at hchars
        rw [if_pos he, Option.some.inj hchars]
      · rw [List.find?_cons_of_neg (by simpa using he)] at hchars
        rw [if_neg he]
        exact ih (fun e' he' => htable e' (List.mem_cons_of_mem _ he')) hchars
  rw [List.cons_append] at hfirst ⊢
  unfold longest?
  dsimp only
  rw [hfirst]

end CharRef

namespace Html

/-- The name of the reference that a character is written as, if it is not written as itself. -/
def referenceName? (c : Char) : Option (List Char) :=
  if c = '&' then some ['a', 'm', 'p']
  else if c = '<' then some ['l', 't']
  else if c = '>' then some ['g', 't']
  else if c = '"' then some ['q', 'u', 'o', 't']
  else none

def escapeChar (c : Char) : List Char :=
  match referenceName? c with
  | some name => '&' :: (name ++ [';'])
  | none => [c]

def escape (s : String) : List Char := s.toList.flatMap escapeChar

def openTag (name : String) : List Char := '<' :: name.toList ++ ['>']

def closeTag (name : String) : List Char := '<' :: '/' :: name.toList ++ ['>']

def attributeText (a : String × String) : List Char := ' ' :: a.1.toList ++ '=' :: '"' :: escape a.2 ++ ['"']

/-- The tag of an element without content. -/
def voidTag (name : String) (attributes : List (String × String)) : List Char :=
  '<' :: name.toList ++ attributes.flatMap attributeText ++ [' ', '/', '>']

theorem openTag_append (name : String) (r : List Char) : openTag name ++ r = '<' :: (name.toList ++ '>' :: r) := by
  simp [openTag]

theorem closeTag_append (name : String) (r : List Char) :
    closeTag name ++ r = '<' :: '/' :: (name.toList ++ '>' :: r) := by
  simp [closeTag]

theorem attributeText_append (name value : String) (r : List Char) :
    attributeText (name, value) ++ r = ' ' :: (name.toList ++ '=' :: '"' :: (escape value ++ '"' :: r)) := by
  simp [attributeText]

theorem voidTag_append (name : String) (attributes : List (String × String)) (r : List Char) :
    voidTag name attributes ++ r =
      '<' :: (name.toList ++ (attributes.flatMap attributeText ++ ' ' :: '/' :: '>' :: r)) := by
  simp [voidTag]

/-! ## References and texts -/

theorem referenceName?_eq_none {c : Char} (h : referenceName? c = none) : c ≠ '&' ∧ c ≠ '<' ∧ c ≠ '>' ∧ c ≠ '"' := by
  unfold referenceName? at h
  split_ifs at h with hamp hlt hgt hquot
  exact ⟨hamp, hlt, hgt, hquot⟩

theorem escapeChar_of_some {c : Char} {name : List Char} (h : referenceName? c = some name) :
    escapeChar c = '&' :: (name ++ [';']) := by
  rw [escapeChar, h]

theorem escapeChar_of_none {c : Char} (h : referenceName? c = none) : escapeChar c = [c] := by
  rw [escapeChar, h]

/-- What stands in a text that is written: the characters that are written as themselves, and references. -/
theorem mem_escapeChar {c d : Char} (h : d ∈ escapeChar c) :
    (d = c ∧ referenceName? c = none) ∨ d = '&' ∨ d = ';' ∨ d.isLower = true := by
  cases hname : referenceName? c with
  | none =>
    rw [escapeChar_of_none hname] at h
    exact .inl ⟨List.mem_singleton.1 h, rfl⟩
  | some name =>
    have hlower : name.all Char.isLower = true := by
      unfold referenceName? at hname
      split_ifs at hname <;> cases hname <;> decide
    rw [escapeChar_of_some hname, List.mem_cons, List.mem_append, List.mem_singleton] at h
    rcases h with h | h | h
    · exact .inr (.inl h)
    · exact .inr (.inr (.inr (List.all_eq_true.1 hlower d h)))
    · exact .inr (.inr (.inl h))

theorem quote_not_mem_escape (s : String) : '"' ∉ escape s := by
  intro h
  obtain ⟨c, -, hc⟩ := List.mem_flatMap.1 h
  rcases mem_escapeChar hc with ⟨rfl, hnone⟩ | h | h | h
  · exact (referenceName?_eq_none hnone).2.2.2 rfl
  all_goals exact absurd h (by decide)

theorem escapeChar_ne_nil (c : Char) : escapeChar c ≠ [] := by
  cases h : referenceName? c with
  | some name => simp [escapeChar_of_some h]
  | none => simp [escapeChar_of_none h]

theorem length_le_flatMap {α : Type} {f : α → List Char} (h : ∀ a, f a ≠ []) (l : List α) :
    l.length ≤ (l.flatMap f).length := by
  induction l with
  | nil => exact Nat.le_refl 0
  | cons a l ih =>
    have ha := List.length_pos_iff.2 (h a)
    rw [List.flatMap_cons, List.length_append, List.length_cons]
    omega

theorem reference?_closed {c : Char} {name chars : List Char} (hc : c ≠ '#') (hname : ';' ∉ c :: name)
    (htable : ∀ e ∈ CharRef.namesUnder c, ';' ∉ e.1.toList) (hchars : CharRef.named? (c :: name) = some chars)
    (inAttribute : Bool) (rest : List Char) :
    reference? inAttribute (c :: name ++ ';' :: rest) = some (chars, rest) := by
  have hlongest := CharRef.longest?_closed hname htable hchars rest
  unfold reference?
  split
  case h_4 =>
    rw [hlongest]
    simp
  all_goals
    next heq => exact absurd (List.cons.inj heq).1 hc

/-- The references that texts are written with are read as the characters they are written for. -/
theorem reference?_of_referenceName? {c : Char} {name : List Char} (h : referenceName? c = some name)
    (inAttribute : Bool) (rest : List Char) :
    reference? inAttribute (name ++ ';' :: rest) = some ([c], rest) := by
  unfold referenceName? at h
  split_ifs at h with hamp hlt hgt hquot
  all_goals
    cases h
    subst c
    exact reference?_closed (by decide) (by decide) (by decide +kernel) (by decide +kernel) inAttribute rest

theorem dataTokens_escapeChar (foreign : Bool) (c : Char) (r : List Char) :
    dataTokens foreign (escapeChar c ++ r) = ([.char c], .data, r) := by
  cases h : referenceName? c with
  | some name =>
    rw [escapeChar_of_some h, List.cons_append, List.append_assoc, List.singleton_append, dataTokens,
      reference?_of_referenceName? h]
    rfl
  | none =>
    obtain ⟨hamp, hlt, -, -⟩ := referenceName?_eq_none h
    rw [escapeChar_of_none h, List.singleton_append]
    unfold dataTokens
    split <;> simp_all

theorem textTokens_escapeChar (lexing : Lexing) (name : String) {c : Char} (hc : c ≠ '\x00') (r : List Char) :
    textTokens lexing name true (escapeChar c ++ r) = ([.char c], lexing, r) := by
  cases h : referenceName? c with
  | some name =>
    rw [escapeChar_of_some h, List.cons_append, List.append_assoc, List.singleton_append, textTokens, if_pos rfl,
      reference?_of_referenceName? h]
    rfl
  | none =>
    obtain ⟨hamp, hlt, -, -⟩ := referenceName?_eq_none h
    rw [escapeChar_of_none h, List.singleton_append]
    unfold textTokens
    split <;> simp_all [cleanChar]

theorem decodeValue_escapeChar {c : Char} (hc : c ≠ '\x00') (fuel : Nat) (r : List Char) :
    decodeValue (fuel + 1) (escapeChar c ++ r) = c :: decodeValue fuel r := by
  cases h : referenceName? c with
  | some name =>
    rw [escapeChar_of_some h, List.cons_append, List.append_assoc, List.singleton_append, decodeValue,
      reference?_of_referenceName? h]
    rfl
  | none =>
    rw [escapeChar_of_none h, List.singleton_append, decodeValue, if_neg hc]
    exact (referenceName?_eq_none h).1

theorem decodeValue_escape {l : List Char} (h : '\x00' ∉ l) {fuel : Nat} (hfuel : l.length ≤ fuel) :
    decodeValue fuel (l.flatMap escapeChar) = l := by
  induction l generalizing fuel with
  | nil => cases fuel <;> rfl
  | cons c l ih =>
    obtain ⟨hc, hl⟩ := not_or.1 (mt List.mem_cons.2 h)
    obtain ⟨fuel, rfl⟩ : ∃ k, fuel = k + 1 := ⟨fuel - 1, by rw [List.length_cons] at hfuel; omega⟩
    rw [List.flatMap_cons, decodeValue_escapeChar (Ne.symm hc), ih hl (Nat.le_of_succ_le_succ hfuel)]

/-! ## Tags -/

/-- A name as tags and attributes are written with. -/
def IsPlain (name : String) : Prop := name.toList ≠ [] ∧ ∀ c ∈ name.toList, c.isLower = true

instance (name : String) : Decidable (IsPlain name) :=
  decidable_of_iff (name.toList ≠ [] ∧ name.toList.all Char.isLower = true) (and_congr_right fun _ => List.all_eq_true)

theorem IsPlain.exists_cons {name : String} (h : IsPlain name) :
    ∃ c cs, name.toList = c :: cs ∧ ∀ d ∈ c :: cs, d.isLower = true := by
  obtain ⟨c, cs, hcs⟩ := List.exists_cons_of_ne_nil h.1
  exact ⟨c, cs, hcs, hcs ▸ h.2⟩

theorem ne_of_isLower {c d : Char} (hc : c.isLower = true) (hd : d.isLower = false) : c ≠ d := by
  rintro rfl
  rw [hc] at hd
  cases hd

theorem toLower_of_isLower {c : Char} (h : c.isLower = true) : c.toLower = c := by
  have hlower : (decide ('a'.val ≤ c.val) && decide (c.val ≤ 'z'.val)) = true := h
  have hnot : ¬ (c.val ≥ 'A'.val ∧ c.val ≤ 'Z'.val) := by
    simp only [Bool.and_eq_true, decide_eq_true_eq, UInt32.le_iff_toNat_le] at hlower
    simp only [ge_iff_le, UInt32.le_iff_toNat_le, not_and]
    exact fun _ hz => absurd (Nat.le_trans hlower.1 hz) (by decide)
  exact dif_neg hnot

theorem nameOf_of_plain {name : String} (hname : IsPlain name) : nameOf name.toList = name := by
  have hmap : name.toList.map (fun c => cleanChar c.toLower) = name.toList := by
    refine (List.map_congr_left fun c hc => ?_).trans (List.map_id _)
    have hlower := hname.2 c hc
    rw [toLower_of_isLower hlower, cleanChar, if_neg (ne_of_isLower hlower (by decide)), id_eq]
  rw [nameOf, hmap, String.ofList_toList]

theorem isSpace_of_isLower {c : Char} (h : c.isLower = true) : isSpace c = false := by
  simp [isSpace, ne_of_isLower h]

theorem not_isNameEnd {c : Char} (h : c.isLower = true) : isNameEnd c = false := by
  simp [isNameEnd, isSpace_of_isLower h, ne_of_isLower h]

theorem span_append {p : Char → Bool} {l : List Char} (h : ∀ c ∈ l, p c = true) {d : Char} (hd : p d = false)
    (r : List Char) : (l ++ d :: r).span p = (l, d :: r) := by
  rw [List.span_eq_takeWhile_dropWhile, List.takeWhile_append_of_pos h, List.dropWhile_append_of_pos h,
    List.takeWhile_cons_of_neg (by simp [hd]), List.dropWhile_cons_of_neg (by simp [hd]), List.append_nil]

theorem tag?_of_body {name : String} (hname : IsPlain name) {d : Char} (hd : isNameEnd d = true) {r : List Char}
    {b : TagBody} (hbody : tagBody? ((d :: r).length + 1) [] (d :: r) = some b) :
    tag? (name.toList ++ d :: r) = some (name, b) := by
  have hspan := span_append (p := fun c => !isNameEnd c) (by simpa using fun c hc => not_isNameEnd (hname.2 c hc))
    (d := d) (by simp [hd]) r
  rw [tag?, hspan]
  dsimp only
  rw [hbody, nameOf_of_plain hname]
  rfl

theorem value?_escape (value : String) (r : List Char) :
    value? ('"' :: (escape value ++ '"' :: r)) = some (escape value, r) := by
  have hplain := quote_not_mem_escape value
  show quotedValue? '"' (escape value ++ '"' :: r) = _
  rw [quotedValue?, dropWhile_ne_append hplain, takeWhile_ne_append hplain]

theorem addAttribute_escape {name value : String} (hname : IsPlain name) (hvalue : '\x00' ∉ value.toList)
    {seen : List (String × String)} (hnew : seen.lookup name = none) :
    addAttribute name.toList (escape value) seen = seen ++ [(name, value)] := by
  rw [addAttribute, nameOf_of_plain hname, hnew, if_neg (by simp), escape,
    decodeValue_escape hvalue (length_le_flatMap escapeChar_ne_nil _), String.ofList_toList]

theorem tagBody?_attributeText {name value : String} (hname : IsPlain name) (hvalue : '\x00' ∉ value.toList)
    {seen : List (String × String)} (hnew : seen.lookup name = none) (fuel : Nat) (r : List Char) :
    tagBody? (fuel + 1) seen (attributeText (name, value) ++ r) = tagBody? fuel (seen ++ [(name, value)]) r := by
  have hadd := addAttribute_escape hname hvalue hnew
  obtain ⟨c, cs, hcs, hlower⟩ := hname.exists_cons
  have hc := hlower c List.mem_cons_self
  rw [hcs] at hadd
  have hdrop : (attributeText (name, value) ++ r).dropWhile isSpace =
      c :: (cs ++ '=' :: '"' :: (escape value ++ '"' :: r)) := by
    rw [attributeText_append, hcs, List.dropWhile_cons_of_pos (by decide), List.cons_append,
      List.dropWhile_cons_of_neg (by simp [isSpace_of_isLower hc])]
  have hspan : (cs ++ '=' :: '"' :: (escape value ++ '"' :: r)).span (fun c => !(isNameEnd c || c == '=')) =
      (cs, '=' :: '"' :: (escape value ++ '"' :: r)) := by
    refine span_append (fun d hd => ?_) (by simp) _
    have hd := hlower d (List.mem_cons_of_mem _ hd)
    simp [not_isNameEnd hd, ne_of_isLower hd]
  -- A lower-case letter begins an attribute, none of the other things that a tag goes on with.
  conv_lhs => unfold tagBody?
  rw [hdrop]
  split
  · next heq => cases heq
  · next heq => exact absurd (List.cons.inj heq).1 (ne_of_isLower hc (by decide))
  · next heq => exact absurd (List.cons.inj heq).1 (ne_of_isLower hc (by decide))
  · next heq => exact absurd (List.cons.inj heq).1 (ne_of_isLower hc (by decide))
  · next heq =>
    obtain ⟨rfl, rfl⟩ := List.cons.inj heq
    rw [hspan]
    show ((value? ('"' :: (escape value ++ '"' :: r))).bind fun p =>
      tagBody? fuel (addAttribute (c :: cs) p.1 seen) p.2) = _
    rw [value?_escape, Option.bind_some, hadd]

theorem tagBody?_attributes (seen : List (String × String)) {attributes : List (String × String)}
    (hplain : ∀ a ∈ attributes, IsPlain a.1 ∧ '\x00' ∉ a.2.toList)
    (hnodup : ((seen ++ attributes).map Prod.fst).Nodup) {fuel : Nat} (hfuel : attributes.length < fuel)
    (r : List Char) : tagBody? fuel seen (attributes.flatMap attributeText ++ ' ' :: '/' :: '>' :: r) =
      some ⟨seen ++ attributes, true, r⟩ := by
  induction attributes generalizing seen fuel with
  | nil =>
    obtain ⟨fuel, rfl⟩ : ∃ k, fuel = k + 1 := ⟨fuel - 1, by rw [List.length_nil] at hfuel; omega⟩
    rw [List.append_nil]
    rfl
  | cons a attributes ih =>
    obtain ⟨fuel, rfl⟩ : ∃ k, fuel = k + 1 := ⟨fuel - 1, by rw [List.length_cons] at hfuel; omega⟩
    obtain ⟨hname, hvalue⟩ := hplain a List.mem_cons_self
    have hnew : seen.lookup a.1 = none := by
      rw [List.map_append, List.nodup_append] at hnodup
      rw [List.lookup_eq_none_iff]
      intro b hb
      exact bne_iff_ne.2 (Ne.symm (hnodup.2.2 _ (List.mem_map_of_mem hb) _ (List.mem_map_of_mem List.mem_cons_self)))
    rw [List.flatMap_cons, List.append_assoc, tagBody?_attributeText hname hvalue hnew,
      ih _ (fun a' ha' => hplain a' (List.mem_cons_of_mem _ ha')) (by simpa using hnodup)
        (Nat.lt_of_succ_lt_succ hfuel), List.append_assoc, List.singleton_append]

theorem isAlpha_of_isLower {c : Char} (h : c.isLower = true) : c.isAlpha = true := by
  show (c.isUpper || c.isLower) = true
  rw [h, Bool.or_true]

theorem dataTokens_opening (foreign : Bool) {name : String} (hname : IsPlain name) {l r : List Char} {t : Tag}
    (h : opening (name.toList ++ l) = ([.opening t], r)) :
    dataTokens foreign ('<' :: (name.toList ++ l)) = ([.opening t], .data, r) := by
  obtain ⟨c, cs, hcs, hlower⟩ := hname.exists_cons
  have hc := hlower c List.mem_cons_self
  rw [hcs, List.cons_append] at h ⊢
  rw [dataTokens, if_pos (isAlpha_of_isLower hc), h]
  all_goals
    intros
    subst_vars
    exact absurd hc (by decide)

theorem dataTokens_openTag (foreign : Bool) {name : String} (hname : IsPlain name) (r : List Char) :
    dataTokens foreign (openTag name ++ r) = ([.opening ⟨name, [], false⟩], .data, r) := by
  have htag := tag?_of_body hname (d := '>') (by decide) (r := r) (b := ⟨[], false, r⟩) rfl
  rw [openTag_append]
  exact dataTokens_opening foreign hname (by rw [opening, htag])

theorem closing_closeTag {name : String} (hname : IsPlain name) (r : List Char) :
    closing (name.toList ++ '>' :: r) = ([.closing name], r) := by
  rw [closing, tag?_of_body hname (d := '>') (by decide) (r := r) (b := ⟨[], false, r⟩) rfl]

theorem dataTokens_closeTag (foreign : Bool) {name : String} (hname : IsPlain name) (r : List Char) :
    dataTokens foreign (closeTag name ++ r) = ([.closing name], .data, r) := by
  have hclosing := closing_closeTag hname r
  obtain ⟨c, cs, hcs, hlower⟩ := hname.exists_cons
  have hc := hlower c List.mem_cons_self
  rw [hcs, List.cons_append] at hclosing
  rw [closeTag_append, hcs, List.cons_append, dataTokens, if_pos (isAlpha_of_isLower hc), hclosing]

theorem dataTokens_voidTag (foreign : Bool) {name : String} (hname : IsPlain name) {attributes : List (String × String)}
    (hplain : ∀ a ∈ attributes, IsPlain a.1 ∧ '\x00' ∉ a.2.toList) (hnodup : (attributes.map Prod.fst).Nodup)
    (r : List Char) :
    dataTokens foreign (voidTag name attributes ++ r) = ([.opening ⟨name, attributes, true⟩], .data, r) := by
  -- Attributes begin with a blank, and so does the end: either ends the name of the tag.
  obtain ⟨d, x, hx, hd⟩ :
      ∃ d x, attributes.flatMap attributeText ++ ' ' :: '/' :: '>' :: r = d :: x ∧ isNameEnd d = true := by
    cases attributes with
    | nil => exact ⟨_, _, rfl, by decide⟩
    | cons a attributes => exact ⟨_, _, rfl, by decide⟩
  have hlength := length_le_flatMap (f := attributeText) (fun _ => List.cons_ne_nil _ _) attributes
  have hfuel : attributes.length < (d :: x).length + 1 := by
    rw [← hx, List.length_append]
    omega
  have hbody := tagBody?_attributes [] hplain hnodup hfuel r
  rw [hx] at hbody
  rw [voidTag_append, hx]
  refine dataTokens_opening foreign hname ?_
  rw [opening, tag?_of_body hname hd hbody]
  rfl

theorem endOf?_closeTag {name : String} (hname : IsPlain name) (r : List Char) :
    endOf? name (name.toList ++ '>' :: r) = some ([.closing name], r) := by
  have hword : afterWord? name (name.toList ++ '>' :: r) = some ('>' :: r) := by
    have hlower : name.toList.map Char.toLower = name.toList :=
      (List.map_congr_left fun c hc => toLower_of_isLower (hname.2 c hc)).trans (List.map_id _)
    rw [afterWord?, ← String.length_toList, List.take_left, List.drop_left, if_pos hlower]
  rw [endOf?, hword]
  exact congrArg some (closing_closeTag hname r)

theorem textTokens_closeTag (lexing : Lexing) {name : String} (hname : IsPlain name) (references : Bool)
    (r : List Char) : textTokens lexing name references (closeTag name ++ r) = ([.closing name], .data, r) := by
  rw [closeTag_append, textTokens, endOf?_closeTag hname]

end Html

end Selenese
