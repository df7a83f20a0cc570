import Selenese.Proofs.Report.Processor

/-!
# Selenese.Proofs.Report.Conforming

What is laid out conforms to the grammar of XML.

* `value_escape`: an escaped text is an attribute value, reported with its white space as blanks.
* `cdata_sections`: a text is written as sections that make it up.
* `Laid.content`: laid out elements are content, reported as they are but for white space in
  attribute values.
-/

namespace Selenese.Report.Xml

theorem Content.append {a b text text' : String} {es es' : List Element} (h : Content a text es)
    (h' : Content b text' es') : Content (a ++ b) (text ++ text') (es ++ es') := by
  induction h with
  | nil => simpa using h'
  | blanks hspace _ ih =>
    rw [String.append_assoc]
    exact .blanks hspace ih
  | data hpart _ ih =>
    have hdata := Content.data hpart ih
    rw [← String.append_assoc, ← String.append_assoc] at hdata
    exact hdata
  | empty hname hattributes _ ih =>
    rw [String.append_assoc]
    exact .empty hname hattributes ih
  | element hname hattributes hinner _ _ ih =>
    rw [String.append_assoc]
    exact .element hname hattributes hinner ih

theorem Content.of_blanks {space : String} (h : ∀ c ∈ space.toList, isBlank c) :
    Content space "" [] := by
  have hblanks := Content.blanks h .nil
  rw [String.append_empty] at hblanks
  exact hblanks

theorem isBlank_newline : ∀ c ∈ "\n".toList, isBlank c := List.all_eq_true.1 rfl

theorem isBlank_pad (depth : Nat) : ∀ c ∈ (pad depth).toList, isBlank c := by
  intro c hc
  rw [pad, toList_pushn] at hc
  rw [List.eq_of_mem_replicate hc]
  rfl

theorem Content.line {a text : String} {es : List Element} (h : Content a text es) (depth : Nat) :
    Content (Xml.line depth a) text es := by
  have hend : Content "\n" "" [] := .of_blanks isBlank_newline
  have hline := ((Content.of_blanks (isBlank_pad depth)).append h).append hend
  rw [String.empty_append, String.append_empty, List.nil_append, List.append_nil] at hline
  exact hline

theorem value_escape (text : List Char) : Value (text.flatMap escapeChar) (text.map spaced) := by
  induction text with
  | nil => exact .nil
  | cons c r ih =>
    rw [List.flatMap_cons, List.map_cons]
    by_cases hc : c = '&' ∨ c = '<' ∨ c = '>' ∨ c = '"' ∨ c = '\''
    · rcases hc with rfl | rfl | rfl | rfl | rfl <;> exact .entity (by decide) ih
    · rcases escapeChar_cases c with hspecial | ⟨hamp, hquote, heq⟩
      · exact absurd hspecial hc
      · rw [heq]
        exact .char (fun h => hc (.inr (.inl h))) hamp hquote ih

theorem attributes_attrs {pairs : List (String × String)} (h : areKeys (pairs.map Prod.fst) = true) :
    Attributes (attrs pairs) (pairs.map fun p => (p.1, spacedText p.2)) := by
  induction pairs with
  | nil => exact .nil
  | cons p r ih =>
    obtain ⟨hname, hfresh, hrest⟩ := areKeys_cons h
    have hvalue : Value (escape p.2).toList (spacedText p.2).toList := by
      rw [escape, spacedText, String.toList_ofList, String.toList_ofList]
      exact value_escape p.2.toList
    refine .cons hname ?_ hvalue (ih hrest)
    rw [List.map_map]
    exact hfresh

/-- A text without the end of a section, as a section. -/
def dataSection (part : String) : String := "<![CDATA[" ++ part ++ "]]>"

theorem noEnd_concat {before : List Char} {c : Char} (h : ¬ sectionEnd <:+: before)
    (hc : ∀ a r, before.reverse = ']' :: ']' :: a → [c] ≠ '>' :: r) :
    ¬ sectionEnd <:+: before ++ [c] := by
  rw [List.infix_concat_iff, not_or]
  refine ⟨?_, h⟩
  rintro ⟨a, ha⟩
  have hsplit : a ++ [']', ']'] ++ ['>'] = before ++ [c] := by
    rw [← ha, List.append_assoc]
    rfl
  obtain ⟨rfl, hlast⟩ := List.append_inj' hsplit rfl
  exact hc a.reverse [] (by simp) hlast.symm

theorem toList_dataSection (part : List Char) :
    (dataSection (String.ofList part)).toList = "<![CDATA[".toList ++ part ++ sectionEnd := by
  have hpart : (String.ofList part).toList = part := String.toList_ofList
  rw [dataSection, String.toList_append, String.toList_append, hpart]
  rfl

/-- By induction on the text, with what stands in the open section before it. -/
theorem splitEnds_sections {before text : List Char} (h : ¬ sectionEnd <:+: before)
    (hacross : NoEndAcross before.reverse text) :
    ∃ parts : List (List Char), (∀ part ∈ parts, ¬ sectionEnd <:+: part) ∧
      "<![CDATA[".toList ++ before ++ splitEnds text ++ sectionEnd =
        parts.flatMap (fun part => (dataSection (String.ofList part)).toList) ∧
      parts.flatten = before ++ text := by
  induction text using splitEnds.induct generalizing before with
  | case1 =>
    refine ⟨[before], fun part hpart => List.mem_singleton.1 hpart ▸ h, ?_, ?_⟩
    · have hnil : splitEnds [] = [] := rfl
      rw [hnil, List.flatMap_cons, List.flatMap_nil, toList_dataSection, List.append_nil,
        List.append_nil]
    · rw [List.flatten_singleton, List.append_nil]
  | case2 r ih =>
    have hopened : ¬ sectionEnd <:+: before ++ [']'] := noEnd_concat h (by simp)
    have hclosed : ¬ sectionEnd <:+: before ++ [']'] ++ [']'] := noEnd_concat hopened (by simp)
    have hsign : ¬ sectionEnd <:+: ['>'] := by decide
    obtain ⟨parts, hparts, hwritten, htext⟩ := ih hsign (noEndAcross_of_ne (by decide) [] r)
    refine ⟨(before ++ [']'] ++ [']']) :: parts, List.forall_mem_cons.2 ⟨hclosed, hparts⟩, ?_, ?_⟩
    · rw [List.flatMap_cons, ← hwritten, splitEnds_end, toList_dataSection]
      simp only [sectionEnd, List.append_assoc, List.cons_append, List.nil_append]
      rfl
    · rw [List.flatten_cons, htext]
      simp only [List.append_assoc, List.cons_append, List.nil_append]
  | case3 c r hc ih =>
    have hafter : ¬ sectionEnd <:+: before ++ [c] := by
      refine noEnd_concat h fun a r' hbefore hlast => ?_
      obtain ⟨rfl, -⟩ := List.cons.inj hlast
      exact hacross.1 a r hbefore rfl
    have hstep : NoEndAcross (before ++ [c]).reverse r := by
      rw [List.reverse_append]
      exact hacross.step fun r' hc' hr => hc r' hc' hr
    obtain ⟨parts, hparts, hwritten, htext⟩ := ih hafter hstep
    refine ⟨parts, hparts, ?_, ?_⟩
    · rw [← hwritten, splitEnds_cons fun r' hc' hr => hc r' hc' hr]
      simp only [List.append_assoc, List.cons_append, List.nil_append]
    · rw [htext, List.append_assoc]
      rfl

/-- A text is written as sections that make it up, each of them up to the first section end. -/
theorem cdata_sections (text : String) :
    ∃ parts : List (List Char), (∀ part ∈ parts, ¬ sectionEnd <:+: part) ∧
      cdata text = String.join (parts.map fun part => dataSection (String.ofList part)) ∧
      parts.flatten = text.toList := by
  have hfresh : NoEndAcross [].reverse text.toList := ⟨nofun, nofun⟩
  obtain ⟨parts, hparts, hwritten, htext⟩ := splitEnds_sections (by decide) hfresh
  refine ⟨parts, hparts, ?_, htext⟩
  have hsplit : (String.ofList (splitEnds text.toList)).toList = splitEnds text.toList :=
    String.toList_ofList
  rw [← String.toList_inj, String.toList_join, List.flatMap_map, ← hwritten, cdata,
    String.toList_append, String.toList_append, hsplit]
  rfl

theorem content_sections {parts : List (List Char)} (h : ∀ part ∈ parts, ¬ sectionEnd <:+: part) :
    Content (String.join (parts.map fun part => dataSection (String.ofList part)))
      (String.ofList parts.flatten) [] := by
  induction parts with
  | nil => exact .nil
  | cons part r ih =>
    rw [List.map_cons, String.join_cons, List.flatten_cons, String.ofList_append]
    refine .data ?_ (ih fun p hp => h p (List.mem_cons_of_mem _ hp))
    rw [String.toList_ofList]
    exact h part List.mem_cons_self

theorem content_cdata (text : String) : Content (cdata text) text [] := by
  obtain ⟨parts, hparts, hwritten, htext⟩ := cdata_sections text
  have hcontent := content_sections hparts
  rw [← hwritten, htext, String.ofList_toList] at hcontent
  exact hcontent

theorem Laid.content {text : String} {es : List Element} (h : Laid text es) :
    Content text "" (es.map Element.reported) := by
  induction h with
  | nil => exact .nil
  | append _ _ iha ihb =>
    rw [List.map_append]
    exact iha.append ihb
  | @leaf name pairs hname hkeys depth =>
    have hleaf := Content.empty hname (attributes_attrs hkeys) .nil
    rw [String.append_empty] at hleaf
    rw [List.map_singleton, Element.reported_mk]
    exact hleaf.line depth
  | @text name hname text depth =>
    have hcontent := Content.element hname .nil (content_cdata text) .nil
    rw [String.append_empty, String.append_empty] at hcontent
    rw [List.map_singleton, Element.reported_mk]
    exact hcontent.line depth
  | @enclosed name pairs content es hname hkeys _ depth ih =>
    -- the line end of the first tag and what stands before the second belong to the content
    have hinner := ((Content.of_blanks isBlank_newline).append ih).append (.of_blanks (isBlank_pad depth))
    rw [String.empty_append, String.append_empty, List.nil_append, List.append_nil] at hinner
    have helement := (Content.element hname (attributes_attrs hkeys) hinner .nil).line depth
    rw [List.map_singleton, Element.reported_mk]
    simp only [Xml.line, String.append_empty, String.append_assoc] at helement ⊢
    exact helement

end Selenese.Report.Xml
