import Selenese.Proofs.Report.Processor

/-!
# Selenese.Proofs.Report.LineEnds

Line ends are made alike in a document as in the texts that are written in it.

* `unified_append`: parts of a document are made alike on their own, unless a line end is cut in two.
* `unified_escape`, `unified_cdata`: what is written of a text, with its line ends made alike, is
  what is written of the text with its line ends made alike.
* `Laid.unified`: so it is with elements that are laid out.
-/

namespace Selenese.Report.Xml

/-! ## Line ends of characters -/

theorem unifyEnds_cr {r : List Char} (h : ∀ r', r ≠ '\n' :: r') :
    unifyEnds ('\r' :: r) = '\n' :: unifyEnds r := by
  rw [unifyEnds.eq_def]
  split
  · rename_i r' heq
    exact absurd (List.cons.inj heq).2 (h r')
  · rename_i r' _ heq
    rw [(List.cons.inj heq).2]
  · rename_i c r' _ hcr heq
    exact absurd (List.cons.inj heq).1.symm hcr
  · rename_i heq
    cases heq

theorem unifyEnds_cons {c : Char} (h : c ≠ '\r') (r : List Char) :
    unifyEnds (c :: r) = c :: unifyEnds r := by
  rw [unifyEnds] <;> (intros; exact absurd (by assumption) h)

/-- A line end is cut in two only between a carriage return and a line feed. -/
theorem unifyEnds_append {a b : List Char} (h : a.getLast? ≠ some '\r' ∨ b.head? ≠ some '\n') :
    unifyEnds (a ++ b) = unifyEnds a ++ unifyEnds b := by
  have htail {c : Char} {r : List Char} (hlast : (c :: r).getLast? ≠ some '\r') :
      r.getLast? ≠ some '\r' := by
    intro hr
    rw [List.getLast?_cons, hr] at hlast
    exact hlast rfl
  induction a using unifyEnds.induct with
  | case1 r ih => exact congrArg (List.cons '\n') (ih (h.imp_left fun hlast => htail (htail hlast)))
  | case2 r hr ih =>
    have hsplit : ∀ r', r ++ b ≠ '\n' :: r' := by
      intro r' heq
      cases r with
      | nil =>
        rcases h with hlast | hhead
        · exact hlast rfl
        · rw [List.nil_append] at heq
          rw [heq] at hhead
          exact hhead rfl
      | cons c r => exact hr r (congrArg (· :: r) (List.cons.inj heq).1)
    rw [List.cons_append, unifyEnds_cr hsplit, unifyEnds_cr fun r' heq => hr r' heq,
      ih (h.imp_left htail)]
    rfl
  | case3 c r _ hc ih =>
    rw [List.cons_append, unifyEnds_cons hc, unifyEnds_cons hc, ih (h.imp_left htail)]
    rfl
  | case4 => rfl

theorem unifyEnds_eq_self {text : List Char} (h : '\r' ∉ text) : unifyEnds text = text := by
  induction text with
  | nil => rfl
  | cons c r ih =>
    rw [List.mem_cons, not_or] at h
    rw [unifyEnds_cons (Ne.symm h.1), ih h.2]

theorem cr_notMem_unifyEnds (text : List Char) : '\r' ∉ unifyEnds text := by
  induction text using unifyEnds.induct with
  | case1 r ih => exact List.not_mem_cons_of_ne_of_not_mem (by decide) ih
  | case2 r hr ih =>
    rw [unifyEnds_cr fun r' heq => hr r' heq]
    exact List.not_mem_cons_of_ne_of_not_mem (by decide) ih
  | case3 c r _ hc ih =>
    rw [unifyEnds_cons hc]
    exact List.not_mem_cons_of_ne_of_not_mem (Ne.symm hc) ih
  | case4 => exact List.not_mem_nil

/-! ## What is written of a text -/

/-- The escape of a character begins with the character or with an ampersand. -/
theorem escapeChar_cons (c : Char) : ∃ d r, escapeChar c = d :: r ∧ (d = c ∨ d = '&') := by
  rcases escapeChar_cases c with hc | ⟨_, _, heq⟩
  · rcases hc with rfl | rfl | rfl | rfl | rfl <;> exact ⟨'&', _, rfl, .inr rfl⟩
  · exact ⟨c, [], heq, .inl rfl⟩

theorem unifyEnds_escapeChar {c : Char} (h : c ≠ '\r') (r : List Char) :
    unifyEnds (escapeChar c ++ r) = escapeChar c ++ unifyEnds r := by
  have hplain : '\r' ∉ escapeChar c := by
    rcases escapeChar_cases c with hc | ⟨_, _, heq⟩
    · rcases hc with rfl | rfl | rfl | rfl | rfl <;> decide
    · rw [heq]
      exact fun hmem => h (List.mem_singleton.1 hmem).symm
  have hlast : (escapeChar c).getLast? ≠ some '\r' := mt List.mem_of_getLast? hplain
  rw [unifyEnds_append (.inl hlast), unifyEnds_eq_self hplain]

theorem unifyEnds_escape (text : List Char) :
    unifyEnds (text.flatMap escapeChar) = (unifyEnds text).flatMap escapeChar := by
  induction text using unifyEnds.induct with
  | case1 r ih => exact congrArg (List.cons '\n') ih
  | case2 r hr ih =>
    have hescaped : ∀ r', r.flatMap escapeChar ≠ '\n' :: r' := by
      intro r' heq
      cases r with
      | nil => cases heq
      | cons c r =>
        obtain ⟨d, l, hd, hcases⟩ := escapeChar_cons c
        rw [List.flatMap_cons, hd] at heq
        have hdn : d = '\n' := (List.cons.inj heq).1
        rcases hcases with rfl | rfl
        · exact hr r (hdn ▸ rfl)
        · exact absurd hdn (by decide)
    rw [unifyEnds_cr fun r' heq => hr r' heq]
    exact (unifyEnds_cr hescaped).trans (congrArg (List.cons '\n') ih)
  | case3 c r _ hc ih =>
    rw [unifyEnds_cons hc, List.flatMap_cons, List.flatMap_cons, unifyEnds_escapeChar hc, ih]
  | case4 => rfl

theorem of_unifyEnds_cons {text r : List Char} {d : Char} (hd : d ≠ '\n')
    (h : unifyEnds text = d :: r) : ∃ r', text = d :: r' ∧ unifyEnds r' = r := by
  cases text using unifyEnds.induct with
  | case1 l => exact absurd (List.cons.inj h).1.symm hd
  | case2 l hl =>
    rw [unifyEnds_cr fun r' heq => hl r' heq] at h
    exact absurd (List.cons.inj h).1.symm hd
  | case3 c l _ hc =>
    rw [unifyEnds_cons hc] at h
    obtain ⟨rfl, hrest⟩ := List.cons.inj h
    exact ⟨l, rfl, hrest⟩
  | case4 => cases h

theorem splitEnds_head (c : Char) (r : List Char) : ∃ l, splitEnds (c :: r) = c :: l := by
  by_cases h : ∃ r', c = ']' ∧ r = ']' :: '>' :: r'
  · obtain ⟨r', rfl, rfl⟩ := h
    exact ⟨_, splitEnds_end r'⟩
  · exact ⟨_, splitEnds_cons fun r' hc hr => h ⟨r', hc, hr⟩⟩

/-- Making line ends alike neither makes nor breaks the end of a section. -/
theorem unifyEnds_splitEnds (text : List Char) :
    unifyEnds (splitEnds text) = splitEnds (unifyEnds text) := by
  induction text using unifyEnds.induct with
  | case1 r ih =>
    have hsplit : splitEnds ('\r' :: '\n' :: r) = '\r' :: '\n' :: splitEnds r := by
      rw [splitEnds_cons (by intro _ h; cases h), splitEnds_cons (by intro _ h; cases h)]
    rw [hsplit]
    exact (congrArg (List.cons '\n') ih).trans
      (splitEnds_cons (c := '\n') (by intro _ h; cases h)).symm
  | case2 r hr ih =>
    have hsplit : splitEnds ('\r' :: r) = '\r' :: splitEnds r :=
      splitEnds_cons (by intro _ h; cases h)
    have hhead : ∀ r', splitEnds r ≠ '\n' :: r' := by
      intro r' heq
      cases r with
      | nil => cases heq
      | cons c r =>
        obtain ⟨l, hl⟩ := splitEnds_head c r
        rw [hl] at heq
        exact hr r (congrArg (· :: r) (List.cons.inj heq).1)
    rw [hsplit, unifyEnds_cr hhead, unifyEnds_cr fun r' heq => hr r' heq, ih,
      splitEnds_cons (c := '\n') (by intro _ h; cases h)]
  | case3 c r _ hc ih =>
    by_cases hend : ∃ r', c = ']' ∧ r = ']' :: '>' :: r'
    · -- the end is broken on both sides; what follows it is part of what is known of `r`
      obtain ⟨r', rfl, rfl⟩ := hend
      have hsplit (l : List Char) : splitEnds (']' :: '>' :: l) = ']' :: '>' :: splitEnds l := by
        rw [splitEnds_cons (by intro _ _ h; cases h), splitEnds_cons (by intro _ h; cases h)]
      have hunify (l : List Char) : unifyEnds (']' :: '>' :: l) = ']' :: '>' :: unifyEnds l := by
        rw [unifyEnds_cons (by decide), unifyEnds_cons (by decide)]
      rw [hsplit, hunify, hunify, hsplit] at ih
      have hrest : unifyEnds (splitEnds r') = splitEnds (unifyEnds r') :=
        (List.cons.inj (List.cons.inj ih).2).2
      rw [splitEnds_end, unifyEnds_append (.inl (by decide)), unifyEnds_eq_self (by decide), hrest,
        unifyEnds_cons (by decide), hunify, splitEnds_end]
    · have hsplit := splitEnds_cons fun r' hc' hr => hend ⟨r', hc', hr⟩
      have hunified : ∀ r', c = ']' → unifyEnds r ≠ ']' :: '>' :: r' := by
        intro r' hc' heq
        obtain ⟨r₁, hr₁, hrest⟩ := of_unifyEnds_cons (by decide) heq
        obtain ⟨r₂, hr₂, -⟩ := of_unifyEnds_cons (by decide) hrest
        exact hend ⟨r₂, hc', by rw [hr₁, hr₂]⟩
      rw [hsplit, unifyEnds_cons hc, unifyEnds_cons hc, ih, splitEnds_cons hunified]
  | case4 => rfl

/-! ## Line ends of what is laid out -/

theorem unified_append {a b : String}
    (h : a.toList.getLast? ≠ some '\r' ∨ b.toList.head? ≠ some '\n') :
    unified (a ++ b) = unified a ++ unified b := by
  rw [unified, String.toList_append, unifyEnds_append h, String.ofList_append]
  rfl

theorem unified_eq_self {s : String} (h : '\r' ∉ s.toList) : unified s = s := by
  rw [unified, unifyEnds_eq_self h, String.ofList_toList]

/-- A text between two plain ones, of which the second begins no line. -/
theorem unified_between {before after : String} (hbefore : '\r' ∉ before.toList)
    (hafter : '\r' ∉ after.toList) (hhead : after.toList.head? ≠ some '\n') (text : String) :
    unified (before ++ text ++ after) = before ++ unified text ++ after := by
  have hlast : before.toList.getLast? ≠ some '\r' := mt List.mem_of_getLast? hbefore
  rw [unified_append (.inr hhead), unified_append (.inl hlast), unified_eq_self hbefore,
    unified_eq_self hafter]

theorem unified_escape (s : String) : unified (escape s) = escape (unified s) := by
  rw [unified, escape, escape, unified, String.toList_ofList, String.toList_ofList,
    unifyEnds_escape]

theorem unified_cdata (s : String) : unified (cdata s) = cdata (unified s) := by
  rw [cdata, unified_between (by decide) (by decide) (by decide), cdata, unified, unified,
    String.toList_ofList, String.toList_ofList, unifyEnds_splitEnds]

theorem cr_notMem_name {name : String} (h : isTagName name = true) : '\r' ∉ name.toList := by
  obtain ⟨c, r, hname, hc, hr⟩ := isName_cons (isName_of_isTagName h)
  have hall : ∀ d ∈ c :: r, isNameChar d = true := List.forall_mem_cons.2 ⟨hc, hr⟩
  rw [hname]
  exact fun hmem => absurd (hall _ hmem) (by decide)

theorem unified_attr {key : String} (h : isTagName key = true) (value : String) :
    unified (attr key value) = attr key (unified value) := by
  have hbefore : '\r' ∉ (" " ++ key ++ "=\"").toList := by
    simp [cr_notMem_name h]
  rw [attr, unified_between hbefore (by decide) (by decide), unified_escape, attr]

theorem getLast?_attr (key value : String) : (attr key value).toList.getLast? = some '"' := by
  rw [attr, String.toList_append]
  exact List.getLast?_concat

theorem getLast?_line (depth : Nat) (text : String) :
    (line depth text).toList.getLast? = some '\n' := by
  rw [line, String.toList_append]
  exact List.getLast?_concat

theorem unified_attrs {pairs : List (String × String)} (h : areKeys (pairs.map Prod.fst) = true) :
    unified (attrs pairs) = attrs (pairs.map fun p => (p.1, unified p.2)) := by
  induction pairs with
  | nil => rfl
  | cons p r ih =>
    obtain ⟨hname, -, hrest⟩ := areKeys_cons h
    have hlast : (attr p.1 p.2).toList.getLast? ≠ some '\r' := by
      rw [getLast?_attr]
      decide
    rw [attrs, unified_append (.inl hlast), unified_attr hname, ih hrest, List.map_cons, attrs]

theorem cr_notMem_pad (depth : Nat) : '\r' ∉ (pad depth).toList := by
  rw [pad, toList_pushn]
  exact fun hmem => absurd (List.eq_of_mem_replicate hmem) (by decide)

theorem getLast?_append_ne {a b : String} (ha : a.toList.getLast? ≠ some '\r')
    (hb : b.toList.getLast? ≠ some '\r') : (a ++ b).toList.getLast? ≠ some '\r' := by
  rw [String.toList_append, List.getLast?_append]
  cases h : b.toList.getLast? with
  | none => exact ha
  | some c => rwa [h] at hb

theorem unified_line {text : String} (h : text.toList.getLast? ≠ some '\r') (depth : Nat) :
    unified (line depth text) = line depth (unified text) := by
  have hpad : (pad depth).toList.getLast? ≠ some '\r' :=
    mt List.mem_of_getLast? (cr_notMem_pad depth)
  rw [line, unified_append (.inl (getLast?_append_ne hpad h)), unified_append (.inl hpad),
    unified_eq_self (cr_notMem_pad depth), line]
  rfl

/-- A line of tags, with a text between them. -/
theorem unified_tags {before after : String} (hbefore : '\r' ∉ before.toList)
    (hafter : '\r' ∉ after.toList) {c : Char} {r : List Char} (hfirst : after.toList = c :: r)
    (hc : c ≠ '\n') (depth : Nat) (text : String) :
    unified (line depth (before ++ text ++ after)) =
      line depth (before ++ unified text ++ after) := by
  have hlast : (before ++ text ++ after).toList.getLast? ≠ some '\r' := by
    rw [String.toList_append, List.getLast?_append, hfirst, List.getLast?_cons, Option.some_or]
    intro hlast
    rw [hfirst, ← Option.some.inj hlast] at hafter
    exact hafter (List.mem_of_getLast? (List.getLast?_cons))
  have hhead : after.toList.head? ≠ some '\n' := by
    rw [hfirst]
    exact fun hhead => hc (Option.some.inj hhead)
  rw [unified_line hlast, unified_between hbefore hafter hhead]

/-- An element whose line ends are alike. -/
def Element.unified : Element → Element := .map Xml.unified Xml.unified

theorem Element.unified_mk (name : String) (pairs : List (String × String)) (text : String)
    (es : List Element) :
    (⟨name, pairs, text, es⟩ : Element).unified =
      ⟨name, pairs.map fun p => (p.1, Xml.unified p.2), Xml.unified text, es.map Element.unified⟩ :=
  map_mk Xml.unified Xml.unified name pairs text es

theorem areKeys_unified {pairs : List (String × String)} (h : areKeys (pairs.map Prod.fst) = true) :
    areKeys ((pairs.map fun p => (p.1, unified p.2)).map Prod.fst) = true := by
  rw [List.map_map]
  exact h

/-- What is laid out is empty or ends a line. -/
theorem Laid.getLast?_ne {text : String} {es : List Element} (h : Laid text es) :
    text.toList.getLast? ≠ some '\r' := by
  induction h with
  | nil => decide
  | append _ _ iha ihb => exact getLast?_append_ne iha ihb
  | leaf _ _ depth => rw [getLast?_line]; decide
  | text _ text depth => rw [textElement, getLast?_line]; decide
  | enclosed _ _ _ depth =>
    rw [String.toList_append, List.getLast?_append, getLast?_line, Option.some_or]
    decide

theorem unified_enclosed {name : String} {pairs : List (String × String)} {content : String}
    (hname : isTagName name = true) (hkeys : areKeys (pairs.map Prod.fst) = true)
    (hcontent : content.toList.getLast? ≠ some '\r') {depth : Nat} :
    unified (line depth ("<" ++ name ++ attrs pairs ++ ">") ++ content ++
        line depth ("</" ++ name ++ ">")) =
      line depth ("<" ++ name ++ attrs (pairs.map fun p => (p.1, unified p.2)) ++ ">") ++
        unified content ++ line depth ("</" ++ name ++ ">") := by
  have hstart : '\r' ∉ ("<" ++ name).toList := by simp [cr_notMem_name hname]
  have hend : '\r' ∉ ("</" ++ name ++ ">").toList := by simp [cr_notMem_name hname]
  have hfirst : (line depth ("<" ++ name ++ attrs pairs ++ ">")).toList.getLast? ≠ some '\r' := by
    rw [getLast?_line]
    decide
  rw [unified_append (.inl (getLast?_append_ne hfirst hcontent)), unified_append (.inl hfirst),
    unified_tags hstart (by decide) (c := '>') rfl (by decide), unified_attrs hkeys,
    unified_line (mt List.mem_of_getLast? hend), unified_eq_self hend]

theorem Laid.unified {text : String} {es : List Element} (h : Laid text es) :
    Laid (Xml.unified text) (es.map Element.unified) := by
  induction h with
  | nil => exact .nil
  | append ha _ iha ihb =>
    rw [unified_append (.inl ha.getLast?_ne), List.map_append]
    exact iha.append ihb
  | @leaf name pairs hname hkeys depth =>
    have hstart : '\r' ∉ ("<" ++ name).toList := by simp [cr_notMem_name hname]
    rw [unified_tags hstart (by decide) (c := ' ') rfl (by decide), unified_attrs hkeys,
      List.map_singleton, Element.unified_mk]
    exact .leaf hname (areKeys_unified hkeys) depth
  | @text name hname text depth =>
    have hstart : '\r' ∉ ("<" ++ name ++ ">").toList := by simp [cr_notMem_name hname]
    have hend : '\r' ∉ ("</" ++ name ++ ">").toList := by simp [cr_notMem_name hname]
    have hfirst : ("</" ++ name ++ ">").toList = '<' :: ("/" ++ name ++ ">").toList := by simp
    have hline (text : String) : textElement depth name text =
        line depth ("<" ++ name ++ ">" ++ cdata text ++ ("</" ++ name ++ ">")) := by
      simp only [textElement, String.append_assoc]
    rw [hline, unified_tags hstart hend hfirst (by decide), unified_cdata, ← hline,
      List.map_singleton, Element.unified_mk]
    exact .text hname _ depth
  | @enclosed name pairs content es hname hkeys hcontent depth ih =>
    rw [unified_enclosed hname hkeys hcontent.getLast?_ne, List.map_singleton, Element.unified_mk]
    exact .enclosed hname (areKeys_unified hkeys) ih depth

end Selenese.Report.Xml
