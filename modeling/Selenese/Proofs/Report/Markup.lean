import Selenese.Report.Xml

/-!
# Selenese.Proofs.Report.Markup

A reader of the markup that reports are written in.

* `unescape` undoes the escapes of attribute values: `unescape_escape`.
* `Reader.feed` takes one character. It knows tags, double-quoted attribute values and CDATA
  sections, and builds the elements that are open; adjacent sections make one text.
* `Reads text es`: wherever an element can have children, reading `text` adds the children `es`.
  One lemma for each way in which markup is put together.
-/

namespace Selenese.Report.Xml

/-! ## Escapes -/

def unescape : List Char → List Char
  | '&' :: 'a' :: 'm' :: 'p' :: ';' :: r => '&' :: unescape r
  | '&' :: 'l' :: 't' :: ';' :: r => '<' :: unescape r
  | '&' :: 'g' :: 't' :: ';' :: r => '>' :: unescape r
  | '&' :: 'q' :: 'u' :: 'o' :: 't' :: ';' :: r => '"' :: unescape r
  | '&' :: 'a' :: 'p' :: 'o' :: 's' :: ';' :: r => '\'' :: unescape r
  | c :: r => c :: unescape r
  | [] => []

theorem unescape_cons {c : Char} (h : c ≠ '&') (r : List Char) :
    unescape (c :: r) = c :: unescape r := by
  rw [unescape] <;> (intros; exact absurd (by assumption) h)

/-- Only the characters that have an escape are changed by escaping. -/
theorem escapeChar_cases (c : Char) :
    (c = '&' ∨ c = '<' ∨ c = '>' ∨ c = '"' ∨ c = '\'') ∨
      c ≠ '&' ∧ c ≠ '"' ∧ escapeChar c = [c] := by
  unfold escapeChar
  split
  case h_6 hamp _ _ hquote _ => exact .inr ⟨hamp, hquote, rfl⟩
  all_goals exact .inl (by decide)

theorem unescape_escapeChar (c : Char) (r : List Char) :
    unescape (escapeChar c ++ r) = c :: unescape r := by
  rcases escapeChar_cases c with hc | ⟨hamp, _, heq⟩
  · rcases hc with rfl | rfl | rfl | rfl | rfl <;> rfl
  · rw [heq]
    exact unescape_cons hamp r

theorem unescape_escape (s : String) : unescape (escape s).toList = s.toList := by
  rw [escape, String.toList_ofList]
  induction s.toList with
  | nil => rfl
  | cons c r ih => rw [List.flatMap_cons, unescape_escapeChar, ih]

/-- An escaped text can stand between double quotes. -/
theorem quote_notMem_escape (s : String) : '"' ∉ (escape s).toList := by
  rw [escape, String.toList_ofList, List.mem_flatMap]
  rintro ⟨c, _, hmem⟩
  rcases escapeChar_cases c with hc | ⟨_, hquote, heq⟩
  · rcases hc with rfl | rfl | rfl | rfl | rfl <;> exact absurd hmem (by decide)
  · rw [heq, List.mem_singleton] at hmem
    exact hquote hmem.symm

/-! ## A reader -/

/-- An element of a document, with the text of its CDATA sections. -/
structure Element where
  name : String
  attributes : List (String × String)
  text : String
  children : List Element

namespace Element

def start (name : List Char) : Element := ⟨String.ofList name, [], "", []⟩

def withAttribute (key value : List Char) (e : Element) : Element :=
  { e with attributes := e.attributes ++ [(String.ofList key, String.ofList value)] }

def addText (text : List Char) (e : Element) : Element :=
  { e with text := e.text ++ String.ofList text }

def add (children : List Element) (e : Element) : Element :=
  { e with children := e.children ++ children }

theorem start_toList (name : String) : start name.toList = ⟨name, [], "", []⟩ := by
  rw [start, String.ofList_toList]

theorem addText_addText (text text' : List Char) (e : Element) :
    (e.addText text).addText text' = e.addText (text ++ text') := by
  rw [addText, addText, addText, String.ofList_append, String.append_assoc]

theorem add_nil (e : Element) : e.add [] = e := by
  cases e
  rw [add, List.append_nil]

end Element

/-- What a reader is in the middle of. -/
inductive Mode where
  /-- Between tags. -/
  | content
  | opening
  | declaration
  /-- After an exclamation mark, with what was read since. -/
  | special (read : List Char)
  /-- In a CDATA section, with what was read of it, the last character first. -/
  | data (read : List Char)
  | endTag (name : List Char)
  | name (name : List Char)
  | startTag (e : Element)
  | key (e : Element) (key : List Char)
  | quote (e : Element) (key : List Char)
  | value (e : Element) (key value : List Char)
  /-- After the stroke that ends an element without content. -/
  | stroke (e : Element)

/-- A reader, and the elements that are open, the innermost first. -/
structure Reader where
  mode : Mode
  opened : List Element

namespace Reader

def goOn (s : Reader) (mode : Mode) : Option Reader := some { s with mode := mode }

def begin (s : Reader) (e : Element) : Option Reader := some ⟨.content, e :: s.opened⟩

def leave (s : Reader) (e : Element) : Option Reader :=
  match s.opened with
  | parent :: rest => some ⟨.content, parent.add [e] :: rest⟩
  | [] => none

/-- Ends the innermost element, under its name. -/
def close (s : Reader) (name : List Char) : Option Reader :=
  match s.opened with
  | e :: rest => if e.name = String.ofList name then leave { s with opened := rest } e else none
  | [] => none

def addText (s : Reader) (text : List Char) : Option Reader :=
  match s.opened with
  | e :: rest => some ⟨.content, e.addText text :: rest⟩
  | [] => none

def feed (s : Reader) (c : Char) : Option Reader :=
  match s.mode with
  | .content => if c = '<' then s.goOn .opening else if c.isWhitespace then some s else none
  | .opening =>
    if c = '/' then s.goOn (.endTag [])
    else if c = '?' then s.goOn .declaration
    else if c = '!' then s.goOn (.special [])
    else s.goOn (.name [c])
  | .declaration => if c = '>' then s.goOn .content else some s
  | .special read =>
    if read ++ [c] = "[CDATA[".toList then s.goOn (.data []) else s.goOn (.special (read ++ [c]))
  | .data read =>
    match c, read with
    | '>', ']' :: ']' :: text => s.addText text.reverse
    | c, read => s.goOn (.data (c :: read))
  | .endTag name => if c = '>' then s.close name else s.goOn (.endTag (name ++ [c]))
  | .name name =>
    if c = '>' then s.begin (.start name)
    else if c = '/' then s.goOn (.stroke (.start name))
    else if c = ' ' then s.goOn (.startTag (.start name))
    else s.goOn (.name (name ++ [c]))
  | .startTag e =>
    if c = '>' then s.begin e
    else if c = '/' then s.goOn (.stroke e)
    else if c = ' ' then some s
    else s.goOn (.key e [c])
  | .key e key => if c = '=' then s.goOn (.quote e key) else s.goOn (.key e (key ++ [c]))
  | .quote e key => if c = '"' then s.goOn (.value e key []) else none
  | .value e key value =>
    if c = '"' then s.goOn (.startTag (e.withAttribute key (unescape value)))
    else s.goOn (.value e key (value ++ [c]))
  | .stroke e => if c = '>' then s.leave e else none

def feedAll (text : List Char) (s : Reader) : Option Reader := text.foldlM feed s

end Reader

/-- The elements that a document consists of, if all that are begun are ended. -/
def parse (document : String) : Option (List Element) :=
  match Reader.feedAll document.toList ⟨.content, [.start []]⟩ with
  | some ⟨.content, [e]⟩ => some e.children
  | _ => none

/-! ## What is read of texts -/

/-- A text takes the reader from one state to another. -/
def Moves (text : String) (s t : Reader) : Prop := Reader.feedAll text.toList s = some t

theorem Moves.append {a b : String} {s t u : Reader} (h : Moves a s t) (h' : Moves b t u) :
    Moves (a ++ b) s u := by
  rw [Moves, Reader.feedAll, String.toList_append, List.foldlM_append]
  rw [Moves, Reader.feedAll] at h
  rw [h]
  exact h'

theorem Moves.empty (s : Reader) : Moves "" s s := rfl

/-! ### Names and attributes -/

def isNameChar (c : Char) : Bool := c.isAlpha || c == '-'

def isName (name : String) : Bool := !name.toList.isEmpty && name.toList.all isNameChar

theorem ne_of_isNameChar {c d : Char} (h : isNameChar c = true) (hd : isNameChar d = false) :
    c ≠ d := by
  rintro rfl
  rw [h] at hd
  cases hd

theorem isName_cons {name : String} (h : isName name = true) :
    ∃ c r, name.toList = c :: r ∧ isNameChar c = true ∧ ∀ d ∈ r, isNameChar d = true := by
  rw [isName, Bool.and_eq_true, List.all_eq_true] at h
  cases hname : name.toList with
  | nil => simp [hname] at h
  | cons c r =>
    rw [hname] at h
    exact ⟨c, r, rfl, List.forall_mem_cons.1 h.2⟩

/-- A reader that only collects characters has collected all of them in the end. -/
theorem feedAll_collect (mode : List Char → Mode) (opened : List Element) {p : Char → Prop}
    (h : ∀ read c, p c → Reader.feed ⟨mode read, opened⟩ c = some ⟨mode (read ++ [c]), opened⟩)
    {text : List Char} (htext : ∀ c ∈ text, p c) (read : List Char) :
    Reader.feedAll text ⟨mode read, opened⟩ = some ⟨mode (read ++ text), opened⟩ := by
  induction text generalizing read with
  | nil => rw [List.append_nil]; rfl
  | cons c r ih =>
    have hrest := ih (fun d hd => htext d (List.mem_cons_of_mem _ hd)) (read ++ [c])
    rw [List.append_assoc] at hrest
    rw [Reader.feedAll, List.foldlM_cons, h read c (htext c List.mem_cons_self)]
    exact hrest

theorem moves_name (opened : List Element) {name : String} (h : isName name = true) :
    Moves ("<" ++ name) ⟨.content, opened⟩ ⟨.name name.toList, opened⟩ := by
  obtain ⟨c, r, hname, hc, hr⟩ := isName_cons h
  have hopening : Moves "<" ⟨.content, opened⟩ ⟨.opening, opened⟩ := rfl
  have hfirst : Reader.feed ⟨.opening, opened⟩ c = some ⟨.name [c], opened⟩ := by
    simp [Reader.feed, Reader.goOn, ne_of_isNameChar hc (d := '/') rfl,
      ne_of_isNameChar hc (d := '?') rfl, ne_of_isNameChar hc (d := '!') rfl]
  refine hopening.append ?_
  rw [Moves, hname, Reader.feedAll, List.foldlM_cons, hfirst]
  refine feedAll_collect .name opened (fun read d hd => ?_) hr [c]
  simp [Reader.feed, Reader.goOn, ne_of_isNameChar hd (d := '>') rfl,
    ne_of_isNameChar hd (d := '/') rfl, ne_of_isNameChar hd (d := ' ') rfl]

theorem moves_key (e : Element) (opened : List Element) {key : String} (h : isName key = true) :
    Moves key ⟨.startTag e, opened⟩ ⟨.key e key.toList, opened⟩ := by
  obtain ⟨c, r, hkey, hc, hr⟩ := isName_cons h
  have hfirst : Reader.feed ⟨.startTag e, opened⟩ c = some ⟨.key e [c], opened⟩ := by
    simp [Reader.feed, Reader.goOn, ne_of_isNameChar hc (d := '>') rfl,
      ne_of_isNameChar hc (d := '/') rfl, ne_of_isNameChar hc (d := ' ') rfl]
  rw [Moves, hkey, Reader.feedAll, List.foldlM_cons, hfirst]
  refine feedAll_collect (.key e) opened (fun read d hd => ?_) hr [c]
  simp [Reader.feed, Reader.goOn, ne_of_isNameChar hd (d := '=') rfl]

theorem moves_value (e : Element) (opened : List Element) (key : List Char) {raw : String}
    (h : '"' ∉ raw.toList) :
    Moves raw ⟨.value e key [], opened⟩ ⟨.value e key raw.toList, opened⟩ := by
  have hnot : ∀ d ∈ raw.toList, d ≠ '"' := by
    rintro d hd rfl
    exact h hd
  refine (feedAll_collect (.value e key) opened (fun read d hd => ?_) hnot []).trans ?_
  · simp [Reader.feed, Reader.goOn, hd]
  · rw [List.nil_append]

/-- An attribute value as it stands in the document. -/
theorem moves_rawAttr (e : Element) (opened : List Element) {key raw : String}
    (h : isName key = true) (hraw : '"' ∉ raw.toList) :
    Moves (" " ++ key ++ "=\"" ++ raw ++ "\"") ⟨.startTag e, opened⟩
      ⟨.startTag { e with
        attributes := e.attributes ++ [(key, String.ofList (unescape raw.toList))] }, opened⟩ := by
  have hblank : Moves " " ⟨.startTag e, opened⟩ ⟨.startTag e, opened⟩ := rfl
  have hquote : Moves "=\"" ⟨.key e key.toList, opened⟩ ⟨.value e key.toList [], opened⟩ := rfl
  have hend : Moves "\"" ⟨.value e key.toList raw.toList, opened⟩ ⟨.startTag { e with
      attributes := e.attributes ++ [(key, String.ofList (unescape raw.toList))] }, opened⟩ := by
    have hpair : e.withAttribute key.toList (unescape raw.toList) =
        { e with attributes := e.attributes ++ [(key, String.ofList (unescape raw.toList))] } := by
      rw [Element.withAttribute, String.ofList_toList]
    rw [← hpair]
    rfl
  have hkey := hblank.append (moves_key e opened h)
  exact ((hkey.append hquote).append (moves_value e opened key.toList hraw)).append hend

theorem moves_attr (e : Element) (opened : List Element) {key : String} (h : isName key = true)
    (value : String) :
    Moves (attr key value) ⟨.startTag e, opened⟩
      ⟨.startTag { e with attributes := e.attributes ++ [(key, value)] }, opened⟩ := by
  have hraw := moves_rawAttr e opened h (quote_notMem_escape value)
  rw [unescape_escape, String.ofList_toList] at hraw
  exact hraw

def attrs : List (String × String) → String
  | [] => ""
  | (key, value) :: r => attr key value ++ attrs r

theorem attrs_append (ps qs : List (String × String)) :
    attrs (ps ++ qs) = attrs ps ++ attrs qs := by
  induction ps with
  | nil => rw [List.nil_append, attrs, String.empty_append]
  | cons p r ih => rw [List.cons_append, attrs, attrs, ih, String.append_assoc]

theorem moves_attrs (e : Element) (opened : List Element) {pairs : List (String × String)}
    (h : ∀ p ∈ pairs, isName p.1) :
    Moves (attrs pairs) ⟨.startTag e, opened⟩
      ⟨.startTag { e with attributes := e.attributes ++ pairs }, opened⟩ := by
  induction pairs generalizing e with
  | nil =>
    cases e
    rw [List.append_nil]
    exact .empty _
  | cons p r ih =>
    have hrest := ih { e with attributes := e.attributes ++ [p] }
      fun q hq => h q (List.mem_cons_of_mem _ hq)
    rw [List.append_assoc] at hrest
    exact (moves_attr e opened (h p List.mem_cons_self) p.2).append hrest

/-- A blank and the end of a tag end a name. -/
theorem feedAll_name {c : Char} (h : c = ' ' ∨ c = '>') (name r : List Char)
    (opened : List Element) : Reader.feedAll (c :: r) ⟨.name name, opened⟩ =
      Reader.feedAll (c :: r) ⟨.startTag (.start name), opened⟩ := by
  rcases h with rfl | rfl <;> rfl

theorem Moves.tag {name : String} (hname : isName name = true) {text : String} {c : Char}
    {r : List Char} (htext : text.toList = c :: r) (hc : c = ' ' ∨ c = '>') {opened : List Element}
    {s : Reader} (h : Moves text ⟨.startTag ⟨name, [], "", []⟩, opened⟩ s) :
    Moves ("<" ++ name ++ text) ⟨.content, opened⟩ s := by
  refine (moves_name opened hname).append ?_
  rw [← Element.start_toList, Moves, htext] at h
  rw [Moves, htext, feedAll_name hc]
  exact h

theorem moves_tag {name : String} (hname : isName name = true) {pairs : List (String × String)}
    (hpairs : ∀ p ∈ pairs, isName p.1) {rest : String} {c : Char} {r : List Char}
    (hrest : rest.toList = c :: r) (hc : c = ' ' ∨ c = '>') {opened : List Element} {s : Reader}
    (h : Moves rest ⟨.startTag ⟨name, pairs, "", []⟩, opened⟩ s) :
    Moves ("<" ++ name ++ attrs pairs ++ rest) ⟨.content, opened⟩ s := by
  have htag := (moves_attrs ⟨name, [], "", []⟩ opened hpairs).append h
  -- an attribute begins with a blank, so what follows the name ends it in any case
  have hfirst : ∃ d l, (attrs pairs ++ rest).toList = d :: l ∧ (d = ' ' ∨ d = '>') := by
    cases pairs with
    | nil => exact ⟨c, r, by rw [attrs, String.empty_append, hrest], hc⟩
    | cons p ps => exact ⟨' ', _, by simp [attrs, attr]; rfl, .inl rfl⟩
  obtain ⟨d, l, hdl, hd⟩ := hfirst
  rw [String.append_assoc]
  exact .tag hname hdl hd htag

/-! ### Sections -/

/-- No section end begins in what was read, which is kept backwards, and ends in what follows. -/
def NoEndAcross (read text : List Char) : Prop :=
  (∀ a r, read = ']' :: ']' :: a → text ≠ '>' :: r) ∧
    ∀ a r, read = ']' :: a → text ≠ ']' :: '>' :: r

theorem NoEndAcross.step {read r : List Char} {c : Char} (h : NoEndAcross read (c :: r))
    (hc : ∀ r', c = ']' → r ≠ ']' :: '>' :: r') : NoEndAcross (c :: read) r := by
  constructor
  · intro a r' hread htext
    obtain ⟨rfl, hread'⟩ := List.cons.inj hread
    exact h.2 a r' hread' (by rw [htext])
  · intro a r' hread
    exact hc r' (List.cons.inj hread).1

theorem noEndAcross_of_ne {c : Char} (h : c ≠ ']') (read text : List Char) :
    NoEndAcross (c :: read) text :=
  ⟨fun _ _ hread => absurd (List.cons.inj hread).1 h,
    fun _ _ hread => absurd (List.cons.inj hread).1 h⟩

theorem feed_data (opened : List Element) {read r : List Char} {c : Char}
    (h : NoEndAcross read (c :: r)) :
    Reader.feed ⟨.data read, opened⟩ c = some ⟨.data (c :: read), opened⟩ := by
  simp only [Reader.feed]
  split
  · rename_i text
    exact absurd rfl (h.1 text r rfl)
  · rfl

theorem splitEnds_end (r : List Char) :
    splitEnds (']' :: ']' :: '>' :: r) =
      [']', ']', ']', ']', '>', '<', '!', '[', 'C', 'D', 'A', 'T', 'A', '[', '>'] ++
        splitEnds r := rfl

theorem splitEnds_cons {c : Char} {r : List Char}
    (hc : ∀ r', c = ']' → r ≠ ']' :: '>' :: r') : splitEnds (c :: r) = c :: splitEnds r := by
  rw [splitEnds.eq_def]
  split
  · rename_i heq
    cases heq
  · rename_i r' heq
    obtain ⟨hc', hr⟩ := List.cons.inj heq
    exact absurd hr (hc r' hc')
  · rename_i heq
    obtain ⟨rfl, rfl⟩ := List.cons.inj heq
    rfl

theorem feedAll_splitEnds {text read : List Char} (h : NoEndAcross read text) (e : Element)
    (opened : List Element) :
    Reader.feedAll (splitEnds text ++ [']', ']', '>']) ⟨.data read, e :: opened⟩ =
      some ⟨.content, e.addText (read.reverse ++ text) :: opened⟩ := by
  induction text using splitEnds.induct generalizing read e with
  | case1 =>
    rw [List.append_nil]
    rfl
  | case2 r ih =>
    -- the broken end closes one section and opens another, with nothing but the sign read in it
    have hbreak (l : List Char) : Reader.feedAll ([']', ']', ']', ']', '>', '<', '!', '[', 'C', 'D',
        'A', 'T', 'A', '[', '>'] ++ l) ⟨.data read, e :: opened⟩ =
        Reader.feedAll l ⟨.data ['>'], e.addText (']' :: ']' :: read).reverse :: opened⟩ := rfl
    rw [splitEnds_end, List.append_assoc, hbreak, ih (noEndAcross_of_ne (by decide) [] r),
      Element.addText_addText]
    simp only [List.reverse_cons, List.append_assoc]
    rfl
  | case3 c r hc ih =>
    have hrest := ih (h.step fun r' hc' hr => hc r' hc' hr) e
    rw [List.reverse_cons, List.append_assoc] at hrest
    rw [splitEnds_cons fun r' hc' hr => hc r' hc' hr, List.cons_append, Reader.feedAll,
      List.foldlM_cons, feed_data _ h]
    exact hrest

theorem moves_cdata (text : String) (e : Element) (opened : List Element) :
    Moves (cdata text) ⟨.content, e :: opened⟩
      ⟨.content, { e with text := e.text ++ text } :: opened⟩ := by
  have hopening : Moves "<![CDATA[" ⟨.content, e :: opened⟩ ⟨.data [], e :: opened⟩ := rfl
  have hend : "]]>".toList = [']', ']', '>'] := rfl
  have hfresh : NoEndAcross [] text.toList := ⟨nofun, nofun⟩
  have hsections := feedAll_splitEnds hfresh e opened
  rw [cdata, String.append_assoc]
  refine hopening.append ?_
  rw [Moves, String.toList_append, String.toList_ofList, hend, hsections, Element.addText,
    List.reverse_nil, List.nil_append, String.ofList_toList]

/-! ### Elements -/

theorem moves_endTag {name : String} (h : isName name = true) {e : Element} (he : e.name = name)
    (parent : Element) (opened : List Element) :
    Moves ("</" ++ name ++ ">") ⟨.content, e :: parent :: opened⟩
      ⟨.content, parent.add [e] :: opened⟩ := by
  have hall : ∀ d ∈ name.toList, isNameChar d = true := by
    obtain ⟨c, r, hname, hc, hr⟩ := isName_cons h
    rw [hname]
    exact List.forall_mem_cons.2 ⟨hc, hr⟩
  have hopening : Moves "</" ⟨.content, e :: parent :: opened⟩
      ⟨.endTag [], e :: parent :: opened⟩ := rfl
  have hcollect : Moves name ⟨.endTag [], e :: parent :: opened⟩
      ⟨.endTag name.toList, e :: parent :: opened⟩ := by
    refine feedAll_collect .endTag (e :: parent :: opened) (fun read d hd => ?_) hall []
    simp [Reader.feed, Reader.goOn, ne_of_isNameChar hd (d := '>') rfl]
  have hend : Moves ">" ⟨.endTag name.toList, e :: parent :: opened⟩
      ⟨.content, parent.add [e] :: opened⟩ := by
    have hclose : Reader.close ⟨.endTag name.toList, e :: parent :: opened⟩ name.toList =
        some ⟨.content, parent.add [e] :: opened⟩ := by
      rw [Reader.close, String.ofList_toList]
      exact if_pos he
    exact congrArg (Option.bind · some) hclose
  exact (hopening.append hcollect).append hend

theorem toList_pushn (s : String) (c : Char) (n : Nat) :
    (s.pushn c n).toList = s.toList ++ List.replicate n c := by
  induction n with
  | zero => simp [String.pushn, Nat.repeat]
  | succ n ih =>
    have hpush : s.pushn c (n + 1) = (s.pushn c n).push c := rfl
    rw [hpush, String.toList_push, ih, List.replicate_succ', List.append_assoc]

theorem moves_pad (depth : Nat) (opened : List Element) :
    Moves (pad depth) ⟨.content, opened⟩ ⟨.content, opened⟩ := by
  have hall : ∀ c ∈ (pad depth).toList, c = ' ' := by
    intro c hc
    rw [pad, toList_pushn] at hc
    exact List.eq_of_mem_replicate hc
  refine feedAll_collect (fun _ => .content) opened ?_ hall []
  rintro _ _ rfl
  rfl

theorem Moves.line {text : String} {opened opened' : List Element}
    (h : Moves text ⟨.content, opened⟩ ⟨.content, opened'⟩) (depth : Nat) :
    Moves (line depth text) ⟨.content, opened⟩ ⟨.content, opened'⟩ := by
  have hnewline : Moves "\n" ⟨.content, opened'⟩ ⟨.content, opened'⟩ := rfl
  exact ((moves_pad depth opened).append h).append hnewline

/-- A text adds children to whatever element it stands in. -/
def Reads (text : String) (es : List Element) : Prop :=
  ∀ e opened, Moves text ⟨.content, e :: opened⟩ ⟨.content, e.add es :: opened⟩

namespace Reads

theorem empty : Reads "" [] := by
  intro e opened
  rw [Element.add_nil]
  exact .empty _

theorem append {a b : String} {es fs : List Element} (h : Reads a es) (h' : Reads b fs) :
    Reads (a ++ b) (es ++ fs) := by
  intro e opened
  have hboth := (h e opened).append (h' (e.add es) opened)
  rw [Element.add, Element.add, List.append_assoc] at hboth
  exact hboth

theorem line {text : String} {es : List Element} (h : Reads text es) (depth : Nat) :
    Reads (line depth text) es := fun e opened => (h e opened).line depth

theorem leaf (name : String) (pairs : List (String × String)) (hname : isName name = true)
    (hpairs : ∀ p ∈ pairs, isName p.1) :
    Reads ("<" ++ name ++ attrs pairs ++ " />") [⟨name, pairs, "", []⟩] :=
  fun _ _ => moves_tag hname hpairs (c := ' ') (r := ['/', '>']) rfl (.inl rfl) rfl

theorem enclosed (name : String) (pairs : List (String × String)) (hname : isName name = true)
    (hpairs : ∀ p ∈ pairs, isName p.1) {content : String} {es : List Element}
    (h : Reads content es) (depth : Nat) :
    Reads (Xml.line depth ("<" ++ name ++ attrs pairs ++ ">") ++ content ++
      Xml.line depth ("</" ++ name ++ ">")) [⟨name, pairs, "", es⟩] := by
  intro e opened
  have hstart : Moves ("<" ++ name ++ attrs pairs ++ ">") ⟨.content, e :: opened⟩
      ⟨.content, ⟨name, pairs, "", []⟩ :: e :: opened⟩ :=
    moves_tag hname hpairs (c := '>') (r := []) rfl (.inr rfl) rfl
  have hcontent := h ⟨name, pairs, "", []⟩ (e :: opened)
  have hend := moves_endTag hname (e := ⟨name, pairs, "", es⟩) rfl e opened
  exact ((hstart.line depth).append hcontent).append (hend.line depth)

theorem textElement (name text : String) (hname : isName name = true) (depth : Nat) :
    Reads (Xml.textElement depth name text) [⟨name, [], text, []⟩] := by
  refine line (fun e opened => ?_) depth
  have hstart : Moves ("<" ++ name ++ ">") ⟨.content, e :: opened⟩
      ⟨.content, ⟨name, [], "", []⟩ :: e :: opened⟩ := by
    rw [← Element.start_toList]
    exact (moves_name (e :: opened) hname).append rfl
  have htext := moves_cdata text ⟨name, [], "", []⟩ (e :: opened)
  rw [String.empty_append] at htext
  have hend := moves_endTag hname (e := ⟨name, [], text, []⟩) rfl e opened
  have hall := (hstart.append htext).append hend
  simpa only [String.append_assoc] using hall

end Reads

end Selenese.Report.Xml
