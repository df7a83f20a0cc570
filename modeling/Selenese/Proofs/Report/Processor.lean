import Selenese.Proofs.Report.Layout

/-!
# Selenese.Proofs.Report.Processor

What a processor of XML 1.0 reports of a document, for the markup that reports are written in.

* `isChar`: the characters that a document may hold. `unifyEnds`: the line ends that a processor makes
  alike before it reads on.
* `Value`, `Attributes`, `Content` and `Document` are the grammar, with what is reported: the white
  space of an attribute value is reported as blanks.
* `Reports document e`: a processor accepts the document and reports the element.
  `Reports.unique`: it reports one element at most.
-/

namespace Selenese.Report.Xml

/-! ## Characters -/

def isChar (c : Char) : Bool :=
  c = '\t' || c = '\n' || c = '\r' || (0x20 ≤ c.toNat && c.toNat ≤ 0xD7FF) ||
    (0xE000 ≤ c.toNat && c.toNat ≤ 0xFFFD) || (0x10000 ≤ c.toNat && c.toNat ≤ 0x10FFFF)

def isBlank (c : Char) : Bool := c = ' ' || c = '\t' || c = '\n' || c = '\r'

/-- A carriage return and the line feed after it, or a carriage return alone, is one line feed. -/
def unifyEnds : List Char → List Char
  | '\r' :: '\n' :: r => '\n' :: unifyEnds r
  | '\r' :: r => '\n' :: unifyEnds r
  | c :: r => c :: unifyEnds r
  | [] => []

def unified (s : String) : String := String.ofList (unifyEnds s.toList)

/-! ## The grammar -/

/-- How a character is reported that stands in an attribute value as itself. -/
def spaced (c : Char) : Char := if isBlank c then ' ' else c

def entities : List (List Char × Char) :=
  [("&amp;".toList, '&'), ("&lt;".toList, '<'), ("&gt;".toList, '>'), ("&quot;".toList, '"'),
    ("&apos;".toList, '\'')]

/-- What stands between double quotes, and the value that is reported. -/
inductive Value : List Char → List Char → Prop where
  | nil : Value [] []
  | char {c : Char} {raw value : List Char} : c ≠ '<' → c ≠ '&' → c ≠ '"' → Value raw value →
      Value (c :: raw) (spaced c :: value)
  | entity {name : List Char} {c : Char} {raw value : List Char} : (name, c) ∈ entities →
      Value raw value → Value (name ++ raw) (c :: value)

def sectionEnd : List Char := [']', ']', '>']

/-- Attributes of one tag; no two have one name. -/
inductive Attributes : String → List (String × String) → Prop where
  | nil : Attributes "" []
  | cons {key raw value rest : String} {pairs : List (String × String)} : isTagName key = true →
      key ∉ pairs.map Prod.fst → Value raw.toList value.toList → Attributes rest pairs →
      Attributes (" " ++ key ++ "=\"" ++ raw ++ "\"" ++ rest) ((key, value) :: pairs)

/-- What stands between the tags of an element: blanks, which are passed over, sections of text, and
elements. -/
inductive Content : String → String → List Element → Prop where
  | nil : Content "" "" []
  | blanks {space rest text : String} {es : List Element} : (∀ c ∈ space.toList, isBlank c) →
      Content rest text es → Content (space ++ rest) text es
  | data {part rest text : String} {es : List Element} : ¬ sectionEnd <:+: part.toList →
      Content rest text es → Content ("<![CDATA[" ++ part ++ "]]>" ++ rest) (part ++ text) es
  | empty {name raw rest text : String} {pairs : List (String × String)} {es : List Element} :
      isTagName name = true → Attributes raw pairs → Content rest text es →
      Content ("<" ++ name ++ raw ++ " />" ++ rest) text (⟨name, pairs, "", []⟩ :: es)
  | element {name raw inner rest text text' : String} {pairs : List (String × String)}
      {es es' : List Element} : isTagName name = true → Attributes raw pairs →
      Content inner text' es' → Content rest text es →
      Content ("<" ++ name ++ raw ++ ">" ++ inner ++ "</" ++ name ++ ">" ++ rest) text
        (⟨name, pairs, text', es'⟩ :: es)

/-- A declaration and one element, with blanks around it. -/
inductive Document : String → Element → Prop where
  | intro {before name raw inner text after : String} {pairs : List (String × String)}
      {es : List Element} : (∀ c ∈ before.toList, isBlank c) → isTagName name = true →
      Attributes raw pairs → Content inner text es → (∀ c ∈ after.toList, isBlank c) →
      Document (declaration ++ before ++
        ("<" ++ name ++ raw ++ ">" ++ inner ++ "</" ++ name ++ ">") ++ after) ⟨name, pairs, text, es⟩

/-- A processor accepts a document, and reports an element of it. -/
def Reports (document : String) (e : Element) : Prop :=
  (∀ c ∈ document.toList, isChar c = true) ∧ Document (unified document) e

/-! ## Elements as they are reported -/

namespace Element

mutual

/-- Changes all attribute values and texts of an element and of those in it. -/
def map (onValue onText : String → String) : Element → Element
  | ⟨name, pairs, text, children⟩ =>
    ⟨name, pairs.map fun p => (p.1, onValue p.2), onText text, mapAll onValue onText children⟩

def mapAll (onValue onText : String → String) : List Element → List Element
  | [] => []
  | e :: r => map onValue onText e :: mapAll onValue onText r

end

theorem mapAll_eq (onValue onText : String → String) (es : List Element) :
    mapAll onValue onText es = es.map (map onValue onText) := by
  induction es with
  | nil => rfl
  | cons e r ih => rw [mapAll, List.map_cons, ih]

theorem map_mk (onValue onText : String → String) (name : String) (pairs : List (String × String))
    (text : String) (es : List Element) :
    map onValue onText ⟨name, pairs, text, es⟩ =
      ⟨name, pairs.map fun p => (p.1, onValue p.2), onText text, es.map (map onValue onText)⟩ := by
  rw [map, mapAll_eq]

end Element

def spacedText (s : String) : String := String.ofList (s.toList.map spaced)

/-- An element as a processor reports it whose line ends are alike. -/
def Element.reported : Element → Element := .map spacedText id

theorem Element.reported_mk (name : String) (pairs : List (String × String)) (text : String)
    (es : List Element) :
    (⟨name, pairs, text, es⟩ : Element).reported =
      ⟨name, pairs.map fun p => (p.1, spacedText p.2), text, es.map Element.reported⟩ :=
  map_mk spacedText id name pairs text es

/-! ## One reading -/

theorem Value.eq_unescape {raw value : List Char} (h : Value raw value) :
    value = (unescape raw).map spaced := by
  induction h with
  | nil => rfl
  | char _ hamp _ _ ih => rw [unescape_cons hamp, List.map_cons, ih]
  | entity hmem _ ih =>
    simp only [entities, List.mem_cons, Prod.mk.injEq, List.not_mem_nil, or_false] at hmem
    rcases hmem with ⟨rfl, rfl⟩ | ⟨rfl, rfl⟩ | ⟨rfl, rfl⟩ | ⟨rfl, rfl⟩ | ⟨rfl, rfl⟩ <;>
      exact congrArg (List.cons _) ih

theorem Value.quote_notMem {raw value : List Char} (h : Value raw value) : '"' ∉ raw := by
  induction h with
  | nil => exact List.not_mem_nil
  | char _ _ hquote _ ih => exact List.not_mem_cons_of_ne_of_not_mem (Ne.symm hquote) ih
  | entity hmem _ ih =>
    simp only [entities, List.mem_cons, Prod.mk.injEq, List.not_mem_nil, or_false] at hmem
    rw [List.mem_append]
    rcases hmem with ⟨rfl, _⟩ | ⟨rfl, _⟩ | ⟨rfl, _⟩ | ⟨rfl, _⟩ | ⟨rfl, _⟩ <;>
      exact not_or.2 ⟨by decide, ih⟩

theorem Attributes.moves {raw : String} {pairs : List (String × String)} (h : Attributes raw pairs)
    (e : Element) (opened : List Element) :
    ∃ read : List (String × String),
      Moves raw ⟨.startTag e, opened⟩
        ⟨.startTag { e with attributes := e.attributes ++ read }, opened⟩ ∧
      pairs = read.map fun p => (p.1, spacedText p.2) := by
  induction h generalizing e with
  | nil =>
    refine ⟨[], ?_, rfl⟩
    cases e
    rw [List.append_nil]
    exact .empty _
  | @cons key raw value rest pairs hkey _ hvalue _ ih =>
    let p := (key, String.ofList (unescape raw.toList))
    obtain ⟨read, hmoves, hpairs⟩ := ih { e with attributes := e.attributes ++ [p] }
    rw [List.append_assoc] at hmoves
    refine ⟨p :: read, (moves_rawAttr e opened (isName_of_isTagName hkey)
      hvalue.quote_notMem).append hmoves, ?_⟩
    rw [List.map_cons, ← hpairs, spacedText, String.toList_ofList, ← hvalue.eq_unescape,
      String.ofList_toList]

theorem Attributes.first {raw : String} {pairs : List (String × String)} (h : Attributes raw pairs) :
    raw = "" ∨ ∃ r, raw.toList = ' ' :: r := by
  cases h with
  | nil => exact .inl rfl
  | cons _ _ _ _ => exact .inr ⟨_, by simp; rfl⟩

theorem Attributes.tag {name raw : String} {pairs : List (String × String)} (h : Attributes raw pairs)
    (hname : isTagName name = true) (rest : String) {c : Char} {r : List Char}
    (hrest : rest.toList = c :: r) (hc : c = ' ' ∨ c = '>') (opened : List Element) :
    ∃ read : List (String × String), pairs = read.map (fun p => (p.1, spacedText p.2)) ∧
      ∀ s, Moves rest ⟨.startTag ⟨name, read, "", []⟩, opened⟩ s →
        Moves ("<" ++ name ++ raw ++ rest) ⟨.content, opened⟩ s := by
  obtain ⟨read, hmoves, hpairs⟩ := h.moves ⟨name, [], "", []⟩ opened
  refine ⟨read, hpairs, fun s hs => ?_⟩
  have hfirst : ∃ d l, (raw ++ rest).toList = d :: l ∧ (d = ' ' ∨ d = '>') := by
    rcases h.first with rfl | ⟨l, hl⟩
    · exact ⟨c, r, by rw [String.empty_append, hrest], hc⟩
    · exact ⟨' ', l ++ rest.toList, by rw [String.toList_append, hl]; rfl, .inl rfl⟩
  obtain ⟨d, l, hdl, hd⟩ := hfirst
  rw [String.append_assoc]
  exact .tag (isName_of_isTagName hname) hdl hd (hmoves.append hs)

theorem moves_blanks {space : String} (h : ∀ c ∈ space.toList, isBlank c) (opened : List Element) :
    Moves space ⟨.content, opened⟩ ⟨.content, opened⟩ := by
  refine feedAll_collect (fun _ => .content) opened (fun _ c hc => ?_) h []
  simp only [isBlank, Bool.or_eq_true, decide_eq_true_eq, or_assoc] at hc
  rcases hc with rfl | rfl | rfl | rfl <;> rfl

theorem splitEnds_eq_self {text : List Char} (h : ¬ sectionEnd <:+: text) :
    splitEnds text = text := by
  induction text using splitEnds.induct with
  | case1 => rfl
  | case2 r => exact absurd (List.prefix_append sectionEnd r).isInfix h
  | case3 c r hc ih =>
    rw [splitEnds_cons fun r' hc' hr => hc r' hc' hr, ih fun hr => h (hr.trans (List.suffix_cons c r).isInfix)]

theorem moves_data {part : String} (h : ¬ sectionEnd <:+: part.toList) (e : Element)
    (opened : List Element) :
    Moves ("<![CDATA[" ++ part ++ "]]>") ⟨.content, e :: opened⟩
      ⟨.content, { e with text := e.text ++ part } :: opened⟩ := by
  have hmoves := moves_cdata part e opened
  rw [cdata, splitEnds_eq_self h, String.ofList_toList] at hmoves
  exact hmoves

theorem Content.moves {raw text : String} {es : List Element} (h : Content raw text es)
    (e : Element) (opened : List Element) :
    ∃ read : List Element,
      Moves raw ⟨.content, e :: opened⟩
        ⟨.content, { e with text := e.text ++ text, children := e.children ++ read } :: opened⟩ ∧
      es = read.map Element.reported := by
  induction h generalizing e opened with
  | nil =>
    refine ⟨[], ?_, rfl⟩
    cases e
    rw [String.append_empty, List.append_nil]
    exact .empty _
  | blanks hspace _ ih =>
    obtain ⟨read, hrest, hes⟩ := ih e opened
    exact ⟨read, (moves_blanks hspace _).append hrest, hes⟩
  | @data part rest text es hpart _ ih =>
    obtain ⟨read, hrest, hes⟩ := ih { e with text := e.text ++ part } opened
    rw [String.append_assoc] at hrest
    exact ⟨read, (moves_data hpart e opened).append hrest, hes⟩
  | @empty name raw rest text pairs es hname hattributes _ ih =>
    obtain ⟨attributes, hpairs, htag⟩ :=
      hattributes.tag hname " />" rfl (.inl rfl) (e :: opened)
    let child : Element := ⟨name, attributes, "", []⟩
    obtain ⟨read, hrest, hes⟩ := ih (e.add [child]) opened
    refine ⟨child :: read, ?_, ?_⟩
    · have hchild := (htag ⟨.content, e.add [child] :: opened⟩ rfl).append hrest
      rw [Element.add, List.append_assoc] at hchild
      exact hchild
    · rw [List.map_cons, ← hes, Element.reported_mk, ← hpairs]
      rfl
  | @element name raw inner rest text text' pairs es es' hname hattributes _ _ ihinner ih =>
    obtain ⟨attributes, hpairs, htag⟩ :=
      hattributes.tag hname ">" rfl (.inr rfl) (e :: opened)
    obtain ⟨readInner, hinner, hes'⟩ := ihinner ⟨name, attributes, "", []⟩ (e :: opened)
    let child : Element := ⟨name, attributes, text', readInner⟩
    obtain ⟨read, hrest, hes⟩ := ih (e.add [child]) opened
    refine ⟨child :: read, ?_, ?_⟩
    · rw [String.empty_append, List.nil_append] at hinner
      have hend := moves_endTag (isName_of_isTagName hname) (e := child) rfl e opened
      have hchild := (((htag _ rfl).append hinner).append hend).append hrest
      rw [Element.add, List.append_assoc] at hchild
      simp only [String.append_assoc] at hchild ⊢
      exact hchild
    · rw [List.map_cons, ← hes, Element.reported_mk, ← hpairs, ← hes']

/-- The reader of markup reads what a processor reports, but for white space in attribute values. -/
theorem Document.parse {document : String} {e : Element} (h : Document document e) :
    ∃ read, Xml.parse document = some [read] ∧ e = read.reported := by
  obtain @⟨before, name, raw, inner, text, after, pairs, es, hbefore, hname, hattributes, hinner,
    hafter⟩ := h
  have hcontent := Content.blanks hbefore
    (.element hname hattributes hinner (.blanks hafter .nil))
  obtain ⟨read, hmoves, hread⟩ := hcontent.moves (.start []) []
  obtain ⟨child, rfl, hchild⟩ := List.map_eq_singleton_iff.1 hread.symm
  have hall := (moves_declaration [.start []]).append hmoves
  rw [Moves, String.append_empty] at hall
  simp only [String.append_assoc] at hall ⊢
  refine ⟨child, ?_, hchild.symm⟩
  rw [Xml.parse, hall]
  rfl

/-- A processor reports one element at most. -/
theorem Document.unique {document : String} {e e' : Element} (h : Document document e)
    (h' : Document document e') : e = e' := by
  obtain ⟨read, hread, rfl⟩ := h.parse
  obtain ⟨read', hread', rfl⟩ := h'.parse
  rw [hread] at hread'
  cases hread'
  rfl

end Selenese.Report.Xml
