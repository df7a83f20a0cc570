import Selenese.Proofs.Report.Conforming
import Selenese.Proofs.Report.LineEnds
import Selenese.Proofs.Report.Written

/-!
# Selenese.Proofs.Report.Faithful

How faithfully a report is read by a processor of XML 1.0.

* `Element.values` and `Element.texts`: the attribute values of an element and of those in it, and
  the texts of their sections.
* `Laid.legal_iff`: a document holds no character that it may not hold if these texts hold none.
* `reports_toXml`: what a processor reports of a report.
* `Report.toXml_faithful_iff`: when that is what was recorded.
-/

namespace Selenese.Report.Xml

/-! ## Texts of elements -/

namespace Element

mutual

def values : Element → List String
  | ⟨_, pairs, _, children⟩ => pairs.map Prod.snd ++ valuesIn children

def valuesIn : List Element → List String
  | [] => []
  | e :: r => values e ++ valuesIn r

end

mutual

def texts : Element → List String
  | ⟨_, _, text, children⟩ => text :: textsIn children

def textsIn : List Element → List String
  | [] => []
  | e :: r => texts e ++ textsIn r

end

theorem valuesIn_append (es fs : List Element) :
    valuesIn (es ++ fs) = valuesIn es ++ valuesIn fs := by
  induction es with
  | nil => rfl
  | cons e r ih => rw [List.cons_append, valuesIn, valuesIn, ih, List.append_assoc]

theorem textsIn_append (es fs : List Element) : textsIn (es ++ fs) = textsIn es ++ textsIn fs := by
  induction es with
  | nil => rfl
  | cons e r ih => rw [List.cons_append, textsIn, textsIn, ih, List.append_assoc]

mutual

theorem map_map (f g f' g' : String → String) : ∀ e : Element,
    map f g (map f' g' e) = map (f ∘ f') (g ∘ g') e
  | ⟨name, pairs, text, children⟩ => by
    rw [map, map, map, mapAll_mapAll f g f' g' children, List.map_map]
    rfl

theorem mapAll_mapAll (f g f' g' : String → String) : ∀ es : List Element,
    mapAll f g (mapAll f' g' es) = mapAll (f ∘ f') (g ∘ g') es
  | [] => rfl
  | e :: r => by rw [mapAll, mapAll, mapAll, map_map f g f' g' e, mapAll_mapAll f g f' g' r]

end

mutual

/-- An element is left as it is if its texts are. -/
theorem map_eq_self_iff (f g : String → String) : ∀ e : Element,
    map f g e = e ↔ (∀ v ∈ e.values, f v = v) ∧ ∀ t ∈ e.texts, g t = t
  | ⟨name, pairs, text, children⟩ => by
    have hpairs : pairs.map (fun p => (p.1, f p.2)) = pairs ↔ ∀ v ∈ pairs.map Prod.snd, f v = v := by
      induction pairs with
      | nil => simp
      | cons p r ih =>
        rw [List.map_cons, List.cons.injEq, ih, List.map_cons, List.forall_mem_cons, Prod.mk.injEq]
        simp only [true_and]
    rw [map, values, texts, Element.mk.injEq, mapAll_eq_self_iff f g children, hpairs]
    simp only [List.forall_mem_append, List.forall_mem_cons, true_and]
    constructor
    · rintro ⟨hvalues, htext, hvaluesIn, htextsIn⟩
      exact ⟨⟨hvalues, hvaluesIn⟩, htext, htextsIn⟩
    · rintro ⟨⟨hvalues, hvaluesIn⟩, htext, htextsIn⟩
      exact ⟨hvalues, htext, hvaluesIn, htextsIn⟩

theorem mapAll_eq_self_iff (f g : String → String) : ∀ es : List Element,
    mapAll f g es = es ↔ (∀ v ∈ valuesIn es, f v = v) ∧ ∀ t ∈ textsIn es, g t = t
  | [] => by simp [mapAll, valuesIn, textsIn]
  | e :: r => by
    rw [mapAll, valuesIn, textsIn, List.cons.injEq, map_eq_self_iff f g e,
      mapAll_eq_self_iff f g r]
    simp only [List.forall_mem_append]
    constructor
    · rintro ⟨⟨hvalues, htexts⟩, hvaluesIn, htextsIn⟩
      exact ⟨⟨hvalues, hvaluesIn⟩, htexts, htextsIn⟩
    · rintro ⟨⟨hvalues, hvaluesIn⟩, htexts, htextsIn⟩
      exact ⟨⟨hvalues, htexts⟩, hvaluesIn, htextsIn⟩

end

end Element

/-! ## Characters -/

/-- A document may hold every character of the text. -/
def Legal (s : String) : Prop := ∀ c ∈ s.toList, isChar c = true

instance (s : String) : Decidable (Legal s) :=
  decidable_of_iff (s.toList.all isChar = true) List.all_eq_true

theorem legal_append {a b : String} : Legal (a ++ b) ↔ Legal a ∧ Legal b := by
  simp only [Legal, String.toList_append, List.forall_mem_append]

theorem legal_pad (depth : Nat) : Legal (pad depth) := by
  intro c hc
  rw [pad, toList_pushn] at hc
  rw [List.eq_of_mem_replicate hc]
  decide

theorem legal_line {depth : Nat} {text : String} : Legal (line depth text) ↔ Legal text := by
  have hend : Legal "\n" := by decide
  simp only [line, legal_append, legal_pad, hend, true_and, and_true]

theorem isChar_of_isNameChar {c : Char} (h : isNameChar c = true) : isChar c = true := by
  have hrange : 0x20 ≤ c.toNat ∧ c.toNat ≤ 0xD7FF := by
    rcases Bool.or_eq_true_iff.1 h with hletter | hdash
    · rcases Bool.or_eq_true_iff.1 hletter with hupper | hlower
      · obtain ⟨hlow, hhigh⟩ := of_decide_eq_true hupper
        exact ⟨Nat.le_trans (by decide) hlow, Nat.le_trans hhigh (by decide)⟩
      · obtain ⟨hlow, hhigh⟩ := Bool.and_eq_true_iff.1 hlower
        exact ⟨Nat.le_trans (by decide) (of_decide_eq_true hlow),
          Nat.le_trans (of_decide_eq_true hhigh) (by decide)⟩
    · rw [eq_of_beq hdash]
      decide
  simp [isChar, hrange.1, hrange.2]

theorem legal_name {name : String} (h : isTagName name = true) : Legal name := by
  obtain ⟨c, r, hname, hc, hr⟩ := isName_cons (isName_of_isTagName h)
  have hall : ∀ d ∈ c :: r, isNameChar d = true := List.forall_mem_cons.2 ⟨hc, hr⟩
  rw [Legal, hname]
  exact fun d hd => isChar_of_isNameChar (hall d hd)

theorem legal_escapeChar (c : Char) :
    (∀ d ∈ escapeChar c, isChar d = true) ↔ isChar c = true := by
  rcases escapeChar_cases c with hc | ⟨_, _, heq⟩
  · rw [← List.all_eq_true]
    rcases hc with rfl | rfl | rfl | rfl | rfl <;> decide
  · rw [heq, List.forall_mem_singleton]

theorem legal_escape {s : String} : Legal (escape s) ↔ Legal s := by
  rw [Legal, Legal, escape, String.toList_ofList]
  induction s.toList with
  | nil => simp
  | cons c r ih =>
    rw [List.flatMap_cons, List.forall_mem_append, legal_escapeChar, ih, List.forall_mem_cons]

theorem legal_splitEnds (text : List Char) :
    (∀ c ∈ splitEnds text, isChar c = true) ↔ ∀ c ∈ text, isChar c = true := by
  induction text using splitEnds.induct with
  | case1 => rfl
  | case2 r ih =>
    have hbreak : ∀ c ∈ [']', ']', ']', ']', '>', '<', '!', '[', 'C', 'D', 'A', 'T', 'A', '[', '>'],
        isChar c = true := List.all_eq_true.1 rfl
    have hend : ∀ c ∈ sectionEnd, isChar c = true := List.all_eq_true.1 rfl
    have hwhole : ']' :: ']' :: '>' :: r = sectionEnd ++ r := rfl
    rw [splitEnds_end, List.forall_mem_append, ih, hwhole, List.forall_mem_append]
    exact ⟨fun h => ⟨hend, h.2⟩, fun h => ⟨hbreak, h.2⟩⟩
  | case3 c r hc ih =>
    rw [splitEnds_cons fun r' hc' hr => hc r' hc' hr, List.forall_mem_cons, ih,
      List.forall_mem_cons]

theorem legal_cdata {s : String} : Legal (cdata s) ↔ Legal s := by
  have hstart : Legal "<![CDATA[" := by decide
  have hend : Legal "]]>" := by decide
  have hsplit : Legal (String.ofList (splitEnds s.toList)) ↔ Legal s := by
    rw [Legal, String.toList_ofList]
    exact legal_splitEnds s.toList
  rw [cdata, legal_append, legal_append, hsplit]
  simp only [hstart, hend, true_and, and_true]

theorem legal_attrs {pairs : List (String × String)} (h : areKeys (pairs.map Prod.fst) = true) :
    Legal (attrs pairs) ↔ ∀ v ∈ pairs.map Prod.snd, Legal v := by
  induction pairs with
  | nil => simp [attrs, Legal]
  | cons p r ih =>
    obtain ⟨hname, -, hrest⟩ := areKeys_cons h
    have hblank : Legal " " := by decide
    have hquote : Legal "=\"" := by decide
    have hend : Legal "\"" := by decide
    simp only [attrs, attr, legal_append, legal_escape, legal_name hname, hblank, hquote, hend,
      ih hrest, List.map_cons, List.forall_mem_cons, true_and, and_true]

theorem legal_markup : Legal "" ∧ Legal "<" ∧ Legal ">" ∧ Legal " />" ∧ Legal "</" := by decide

/-- A document holds no character that it may not hold if the texts that are written hold none. -/
theorem Laid.legal_iff {text : String} {es : List Element} (h : Laid text es) :
    Legal text ↔ (∀ v ∈ Element.valuesIn es, Legal v) ∧ ∀ t ∈ Element.textsIn es, Legal t := by
  induction h with
  | nil => simp [Element.valuesIn, Element.textsIn, legal_markup]
  | append _ _ iha ihb =>
    rw [legal_append, iha, ihb, Element.valuesIn_append, Element.textsIn_append]
    simp only [List.forall_mem_append]
    constructor
    · rintro ⟨⟨hvalues, htexts⟩, hvalues', htexts'⟩
      exact ⟨⟨hvalues, hvalues'⟩, htexts, htexts'⟩
    · rintro ⟨⟨hvalues, hvalues'⟩, htexts, htexts'⟩
      exact ⟨⟨hvalues, htexts⟩, hvalues', htexts'⟩
  | leaf hname hkeys depth =>
    simp only [legal_line, legal_append, legal_markup, legal_name hname, legal_attrs hkeys,
      Element.valuesIn, Element.values, Element.textsIn, Element.texts, List.append_nil,
      List.forall_mem_singleton, true_and, and_true]
  | text hname text depth =>
    simp [textElement, legal_line, legal_append, legal_markup, legal_name hname, legal_cdata,
      Element.valuesIn, Element.values, Element.textsIn, Element.texts]
  | enclosed hname hkeys _ depth ih =>
    simp only [legal_line, legal_append, legal_markup, legal_name hname, legal_attrs hkeys, ih,
      Element.valuesIn, Element.values, Element.textsIn, Element.texts, List.append_nil,
      List.forall_mem_cons, List.forall_mem_append, true_and, and_true, and_assoc]

/-! ## What a processor reports of a report -/

/-- An attribute value as a processor reports it. -/
def valueReported (s : String) : String := spacedText (unified s)

/-- The element of a report, as it is reported of its document with all line ends alike. -/
theorem document_toXml (r : Report) :
    Document (unified r.toXml) ((reportElement r).map valueReported unified) := by
  have hlaid := laid_content r
  have hinner := ((Content.of_blanks isBlank_newline).append hlaid.unified.content).append
    (.of_blanks (isBlank_pad 0))
  rw [String.empty_append, String.append_empty, List.nil_append, List.append_nil] at hinner
  have hdocument := Document.intro isBlank_newline (by decide : isTagName "test-results" = true)
    (attributes_attrs (areKeys_unified (areKeys_report r))) hinner isBlank_newline
  have hdeclaration : '\r' ∉ (line 0 declaration).toList := by decide
  have hlast : (line 0 declaration).toList.getLast? ≠ some '\r' :=
    mt List.mem_of_getLast? hdeclaration
  have htext : unified r.toXml = line 0 declaration ++
      (line 0 ("<" ++ "test-results" ++
          attrs ((reportPairs r).map fun p => (p.1, unified p.2)) ++ ">") ++
        unified (content r) ++ line 0 ("</" ++ "test-results" ++ ">")) := by
    rw [toXml_eq, unified_append (.inl hlast), unified_eq_self hdeclaration,
      unified_enclosed (by decide) (areKeys_report r) hlaid.getLast?_ne]
  have helement : (reportElement r).map valueReported unified =
      (⟨"test-results", reportPairs r, "", (reportElement r).children⟩ : Element).unified.reported :=
    (Element.map_map spacedText id unified unified (reportElement r)).symm
  rw [htext, helement, Element.unified_mk, Element.reported_mk]
  simp only [line, String.append_assoc] at hdocument ⊢
  exact hdocument

theorem legal_toXml (r : Report) :
    Legal r.toXml ↔
      (∀ v ∈ (reportElement r).values, Legal v) ∧ ∀ t ∈ (reportElement r).texts, Legal t := by
  have hdeclaration : Legal (line 0 declaration) := by decide
  have hlaid := Laid.enclosed (by decide : isTagName "test-results" = true) (areKeys_report r)
    (laid_content r) 0
  have hwhole := hlaid.legal_iff
  rw [Element.valuesIn, Element.textsIn, Element.valuesIn, Element.textsIn, List.append_nil,
    List.append_nil] at hwhole
  rw [toXml_eq, legal_append, and_iff_right hdeclaration]
  exact hwhole

/-- What a processor reports of a report is known: nothing if a text in it holds a character that a
document may not hold, and else its element with line ends alike and with blanks for the white space
of attribute values. -/
theorem reports_toXml (r : Report) (e : Element) :
    Reports r.toXml e ↔
      ((∀ v ∈ (reportElement r).values, Legal v) ∧ ∀ t ∈ (reportElement r).texts, Legal t) ∧
        e = (reportElement r).map valueReported unified := by
  rw [← legal_toXml]
  constructor
  · rintro ⟨hlegal, hdocument⟩
    exact ⟨hlegal, hdocument.unique (document_toXml r)⟩
  · rintro ⟨hlegal, rfl⟩
    exact ⟨hlegal, document_toXml r⟩

theorem unified_eq_self_iff {s : String} : unified s = s ↔ '\r' ∉ s.toList := by
  refine ⟨fun h => ?_, unified_eq_self⟩
  rw [← h, unified, String.toList_ofList]
  exact cr_notMem_unifyEnds s.toList

theorem spaced_eq_self_iff {c : Char} : spaced c = c ↔ c ≠ '\t' ∧ c ≠ '\n' ∧ c ≠ '\r' := by
  by_cases h : isBlank c = true
  · simp only [isBlank, Bool.or_eq_true, decide_eq_true_eq, or_assoc] at h
    rcases h with rfl | rfl | rfl | rfl <;> decide
  · rw [spaced, if_neg h]
    simp only [isBlank, Bool.or_eq_true, decide_eq_true_eq, or_assoc, not_or] at h
    exact ⟨fun _ => h.2, fun _ => rfl⟩

theorem spaced_spaced (c : Char) : spaced (spaced c) = spaced c := by
  by_cases h : isBlank c = true
  · rw [spaced.eq_1 c, if_pos h]
    rfl
  · rw [spaced.eq_1 c, if_neg h, spaced, if_neg h]

theorem valueReported_eq_self_iff {s : String} :
    valueReported s = s ↔ ∀ c ∈ s.toList, c ≠ '\t' ∧ c ≠ '\n' ∧ c ≠ '\r' := by
  constructor
  · intro h c hc
    rw [← h, valueReported, spacedText, String.toList_ofList] at hc
    obtain ⟨d, _, rfl⟩ := List.mem_map.1 hc
    exact spaced_eq_self_iff.1 (spaced_spaced d)
  · intro h
    have hcr : '\r' ∉ s.toList := fun hc => (h _ hc).2.2 rfl
    have hsame : s.toList.map spaced = s.toList.map id :=
      List.map_congr_left fun c hc => spaced_eq_self_iff.2 (h c hc)
    rw [valueReported, unified_eq_self hcr, spacedText, hsame, List.map_id, String.ofList_toList]

end Selenese.Report.Xml

namespace Selenese.Report

open Xml

/-- **When a report is read as it was written.** A document that a report is written as is accepted by
a processor of XML 1.0 exactly if no text in it holds a character that documents may not hold. The
processor then reports the texts with line feeds for all line ends, and attribute values with blanks
for all white space. So it reports what was recorded exactly if there is no carriage return in any
text, and no tab or line feed in a name, a property or another text that is written as an attribute
value. -/
theorem toXml_faithful_iff (r : Report) :
    let written := reportElement r
    ((∃ e, Reports r.toXml e) ↔
      (∀ v ∈ written.values, Legal v) ∧ ∀ t ∈ written.texts, Legal t) ∧
    (∀ e, Reports r.toXml e → e = written.map valueReported unified) ∧
    (Reports r.toXml written ↔
      (∀ v ∈ written.values, ∀ c ∈ v.toList, isChar c = true ∧ c ≠ '\t' ∧ c ≠ '\n' ∧ c ≠ '\r') ∧
      ∀ t ∈ written.texts, ∀ c ∈ t.toList, isChar c = true ∧ c ≠ '\r') := by
  intro written
  have hsame : written = written.map valueReported unified ↔ _ :=
    eq_comm.trans (Element.map_eq_self_iff valueReported unified written)
  refine ⟨?_, fun e h => ((reports_toXml r e).1 h).2, ?_⟩
  · constructor
    · rintro ⟨e, he⟩
      exact ((reports_toXml r e).1 he).1
    · exact fun hlegal => ⟨_, (reports_toXml r _).2 ⟨hlegal, rfl⟩⟩
  · rw [reports_toXml, hsame]
    simp only [valueReported_eq_self_iff, unified_eq_self_iff]
    constructor
    · rintro ⟨⟨hvalues, htexts⟩, hplain, hends⟩
      refine ⟨fun v hv c hc => ⟨hvalues v hv c hc, hplain v hv c hc⟩,
        fun t ht c hc => ⟨htexts t ht c hc, ?_⟩⟩
      rintro rfl
      exact hends t ht hc
    · rintro ⟨hvalues, htexts⟩
      exact ⟨⟨fun v hv c hc => (hvalues v hv c hc).1, fun t ht c hc => (htexts t ht c hc).1⟩,
        fun v hv c hc => (hvalues v hv c hc).2, fun t ht hc => (htexts t ht _ hc).2 rfl⟩

/-- A line feed in a property is reported as a blank, and the document of a failure whose message
holds a control character is not accepted. -/
theorem toXml_unfaithful :
    let environment := Environment.capture ⟨"linux", "x64", "/", "host"⟩ fun _ => none
    let report := create "run" ⟨"2024-05-01", "12:00:00"⟩ environment
    let d : TestId := ⟨"S", "f", "t"⟩
    let noted := report.addProperty d "verification-error" "a\nb"
    let broken := report.failed d "a\x01b" ""
    (∃ e, Reports noted.toXml e) ∧ ¬ Reports noted.toXml (reportElement noted) ∧
      ∀ e, ¬ Reports broken.toXml e := by
  intro environment report d noted broken
  refine ⟨⟨_, (reports_toXml noted _).2 ⟨by decide +kernel, rfl⟩⟩, ?_, ?_⟩
  · intro h
    have hsame := ((reports_toXml noted _).1 h).2
    have hvalue : valueReported "a\nb" = "a\nb" :=
      ((Element.map_eq_self_iff valueReported unified _).1 hsame.symm).1 _ (by decide +kernel)
    exact absurd hvalue (by decide)
  · intro e h
    have htexts := ((reports_toXml broken e).1 h).1.2
    have hmessage : Legal "a\x01b" := htexts _ (by decide +kernel)
    exact absurd hmessage (by decide)

end Selenese.Report
