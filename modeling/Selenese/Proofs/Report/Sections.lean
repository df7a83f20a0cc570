import Selenese.Proofs.Report.Conforming

/-!
# Selenese.Proofs.Report.Sections

A text that is written as sections comes back, whatever stands in it and behind it.

* `Xml.Sections rest contents text`: the text is sections with these contents, each of them closed by the
  first section end behind its opening and followed at once by the next, and then the rest.
* `Xml.Sections.unique`: a text is read in one way at most.
* `Xml.cdata_read`: a written text is read as sections whose contents make up the text, and in no other
  way.
-/

namespace Selenese.Report.Xml

/-- The section end behind a content is the first one there is from where the content begins. -/
def ClosedFirst (content after : String) : Prop :=
  ∀ before behind, content ++ "]]>" ++ after = before ++ "]]>" ++ behind →
    content.length ≤ before.length

def Sections (rest : String) : List String → String → Prop
  | [], text => text = rest
  | content :: contents, text =>
    ∃ after, text = dataSection content ++ after ∧ ClosedFirst content after ∧
      Sections rest contents after

/-! ## The first section end -/

/-- A section end that begins before another begins at least three characters before
it. -/
theorem eq_nil_of_noEnd {part behind after : List Char} (h : ¬ sectionEnd <:+: part)
    (heq : sectionEnd ++ behind = part ++ (sectionEnd ++ after)) : part = [] := by
  match part with
  | [] => rfl
  | [a] => simp [sectionEnd] at heq
  | [a, b] => simp [sectionEnd] at heq
  | a :: b :: c :: r =>
    simp only [sectionEnd, List.cons_append, List.nil_append, List.cons.injEq] at heq
    obtain ⟨rfl, rfl, rfl, -⟩ := heq
    exact absurd (List.prefix_append sectionEnd r).isInfix h

theorem closedFirst_of_noEnd {content : String} (h : ¬ sectionEnd <:+: content.toList)
    (after : String) : ClosedFirst content after := by
  intro before behind heq
  have hend : "]]>".toList = sectionEnd := rfl
  rw [← String.toList_inj] at heq
  simp only [String.toList_append, List.append_assoc, hend] at heq
  rw [← String.length_toList, ← String.length_toList]
  rcases List.append_eq_append_iff.1 heq with ⟨part, hbefore, -⟩ | ⟨part, hcontent, hends⟩
  · rw [hbefore, List.length_append]
    omega
  · have hpart : ¬ sectionEnd <:+: part := fun hinfix =>
      h (hcontent ▸ hinfix.trans (List.suffix_append before.toList part).isInfix)
    have hsame : content.toList = before.toList := by
      rw [hcontent, eq_nil_of_noEnd hpart hends, List.append_nil]
    exact Nat.le_of_eq (congrArg List.length hsame)

theorem ClosedFirst.unique {content after content' after' : String} (h : ClosedFirst content after)
    (h' : ClosedFirst content' after')
    (heq : content ++ "]]>" ++ after = content' ++ "]]>" ++ after') :
    content = content' ∧ after = after' := by
  have hle : content.length ≤ content'.length := h content' after' heq
  have hge : content'.length ≤ content.length := h' content after heq.symm
  rw [← String.length_toList, ← String.length_toList] at hle hge
  rw [← String.toList_inj] at heq
  simp only [String.toList_append, List.append_assoc] at heq
  obtain ⟨hcontent, hbehind⟩ := List.append_inj heq (by omega)
  exact ⟨String.toList_inj.1 hcontent, String.toList_inj.1 (List.append_cancel_left hbehind)⟩

/-! ## Reading sections -/

namespace Sections

variable {rest : String}

theorem length_le {contents : List String} {text : String} (h : Sections rest contents text) :
    rest.length ≤ text.length := by
  induction contents generalizing text with
  | nil =>
    rw [Sections] at h
    exact h ▸ Nat.le_refl _
  | cons content contents ih =>
    obtain ⟨after, rfl, -, hafter⟩ := h
    have hle := ih hafter
    rw [String.length_append]
    omega

theorem length_lt {content : String} {contents : List String} {text : String}
    (h : Sections rest (content :: contents) text) : rest.length < text.length := by
  obtain ⟨after, rfl, -, hafter⟩ := h
  have hle := hafter.length_le
  have hopening : "<![CDATA[".length = 9 := rfl
  rw [String.length_append, dataSection, String.length_append, String.length_append, hopening]
  omega

/-- By induction on one reading: the openings are the same, and so are the first section ends. -/
theorem unique {contents contents' : List String} {text : String} (h : Sections rest contents text)
    (h' : Sections rest contents' text) : contents = contents' := by
  induction contents generalizing contents' text with
  | nil =>
    cases contents' with
    | nil => rfl
    | cons content contents =>
      have hlt := h'.length_lt
      rw [Sections] at h
      rw [h] at hlt
      omega
  | cons content contents ih =>
    cases contents' with
    | nil =>
      have hlt := h.length_lt
      rw [Sections] at h'
      rw [h'] at hlt
      omega
    | cons content' contents' =>
      obtain ⟨after, rfl, hfirst, hafter⟩ := h
      obtain ⟨after', htext, hfirst', hafter'⟩ := h'
      have hbehind : content ++ "]]>" ++ after = content' ++ "]]>" ++ after' := by
        rw [← String.toList_inj] at htext ⊢
        simp only [dataSection, String.toList_append, List.append_assoc] at htext ⊢
        exact List.append_cancel_left htext
      obtain ⟨rfl, rfl⟩ := hfirst.unique hfirst' hbehind
      rw [ih hafter hafter']

theorem of_parts {parts : List (List Char)} (h : ∀ part ∈ parts, ¬ sectionEnd <:+: part)
    (rest : String) :
    Sections rest (parts.map String.ofList)
      (String.join (parts.map fun part => dataSection (String.ofList part)) ++ rest) := by
  induction parts with
  | nil => exact String.empty_append
  | cons part parts ih =>
    have hpart : ¬ sectionEnd <:+: (String.ofList part).toList := by
      rw [String.toList_ofList]
      exact h part List.mem_cons_self
    have hparts := ih fun p hp => h p (List.mem_cons_of_mem _ hp)
    refine ⟨_, ?_, closedFirst_of_noEnd hpart _, hparts⟩
    rw [List.map_cons, String.join_cons, String.append_assoc]

end Sections

/-- A text is written as sections, one at least, whose contents make it up. Whatever follows, they are
the only way to read what was written up to there, with every section closed by the first end behind its
opening. -/
theorem cdata_read (s : String) :
    ∃ contents : List String, contents ≠ [] ∧
      cdata s = String.join (contents.map dataSection) ∧ String.join contents = s ∧
      ∀ rest others, Sections rest others (cdata s ++ rest) ↔ others = contents := by
  obtain ⟨parts, hparts, hwritten, htext⟩ := cdata_sections s
  have hsections (rest : String) : Sections rest (parts.map String.ofList) (cdata s ++ rest) := by
    rw [hwritten]
    exact .of_parts hparts rest
  refine ⟨parts.map String.ofList, ?_, ?_, ?_, fun rest others => ⟨fun h => ?_, ?_⟩⟩
  · -- a single opening is written in any case
    intro hnone
    rw [List.map_eq_nil_iff.1 hnone, cdata, ← String.toList_inj, String.toList_append] at hwritten
    simp at hwritten
  · rw [hwritten, List.map_map]
    rfl
  · rw [← String.toList_inj, String.toList_join, List.flatMap_map, ← htext]
    simp only [String.toList_ofList, List.flatMap_id']
  · exact h.unique (hsections rest)
  · rintro rfl
    exact hsections rest

/-- Brackets of the text join the brackets of the ends. -/
example : cdata "]]]>]" = "<![CDATA[]]]]]><![CDATA[>]]]>" := by decide

end Selenese.Report.Xml
