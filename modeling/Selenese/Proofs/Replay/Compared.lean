import Selenese.Proofs.Command.Ready
import Selenese.Proofs.Replay.Line
import Selenese.Proofs.Variables.Decode

/-!
# Selenese.Proofs.Replay.Compared

Texts that lines put away and compare later.

* `Replay.Leaves l i e x y`: the replay `y` is `x` with another session, in which `e` is ready under `l`
  in the place `i`.
* `Replay.executeLine_leaves` and `Replay.executeLine_exact`: what a command leaves its line leaves, and an
  assertion of an exact text ends by what the element shows.
* `Replay.ending_typed`: what is typed into an input that was cleared is what an assertion of the same
  value compares.
* `Replay.storeText_assertText`: a text that was stored is what an assertion of its variable compares,
  unless a character reference in it is decoded on the way.
-/

namespace Selenese

open Session (Ready shown)

/-! ## Values of elements -/

namespace Element

theorem lookup_putAttribute (name value : String) (attributes : List (String × String)) :
    (putAttribute name value attributes).lookup name = some value := by
  induction attributes with
  | nil => simp [putAttribute]
  | cons a rest ih =>
    obtain ⟨name', value'⟩ := a
    rw [putAttribute]
    by_cases h : name' = name
    · simp [h]
    · have hne : (name == name') = false := beq_false_of_ne (Ne.symm h)
      simp [h, List.lookup_cons, hne, ih]

theorem value?_setValue (e : Element) (value : String) : (e.setValue value).value? = some value :=
  lookup_putAttribute "value" value e.attributes

/-- Keys that are typed into an element that was cleared become its value. -/
theorem value?_type_clear (e : Element) (keys : String) : (e.clear.type keys).value? = some keys := by
  rw [type, value?_setValue, clear, value?_setValue, Option.getD_some, String.empty_append]

end Element

namespace Replay

/-! ## Lines on an element that is there -/

theorem ending_cons_of_ok {l : Line} {x y : Replay} (h : executeLine l x = .ok () y) (rest : List Line) :
    ending (l :: rest) x = ending rest y := by
  rw [ending_cons, h]

def Leaves (l : Locator) (i : Nat) (e : Element) (x y : Replay) : Prop :=
  ∃ s, y = { x with session := s } ∧ Ready l i e s

section

variable {x : Replay} (line : Line) {l : Locator} {i : Nat} {e : Element}

/-- A line that is no assertion leaves what its command leaves. -/
theorem executeLine_leaves {b : Behaviour} (hlookup : Command.lookup? line.command = some b)
    (hline : line.isAssertion = false)
    (h : ∃ c, b.execute x.options line x.context = .ok () c ∧ x.context.Leaves l i e c) :
    ∃ y, executeLine line x = .ok () y ∧ Leaves l i e x y := by
  obtain ⟨c, hc, s, rfl, hs⟩ := h
  exact ⟨_, (Ends.done hlookup hc hline).eq, s, rfl, hs⟩

/-- An assertion that an element shows a text exactly. -/
theorem executeLine_exact (hlookup : Command.lookup? line.command = some .checkValueOrText)
    (hline : line.isAssertion = true) (htarget : Locator.resolve (x.store.decode line.target) = l)
    (h : Ready l i e x.session) {p : String} (hvalue : x.store.decode line.value = "exact:" ++ p) :
    let m := (Pattern.Mismatch.different .exact p (shown e)).message
    ∃ y, Leaves l i e x y ∧ executeLine line x =
      if shown e = p then .ok () (y.tell (Report.passed x.test))
      else .error (.assertionFailed m (location x.store line))
        (y.tell (Report.failed x.test m (location x.store line))) := by
  intro m
  obtain ⟨c, ⟨s, rfl, hs⟩, hc⟩ := Behaviour.checkValueOrText_ready (x := x.context) x.options htarget h
  refine ⟨x.withContext { x.context with session := s }, ⟨s, rfl, hs⟩, ?_⟩
  rw [show x.context.store.decode line.value = _ from hvalue, Pattern.check_exact] at hc
  by_cases hshown : shown e = p
  · rw [if_pos hshown] at hc ⊢
    exact (Ends.passed hlookup hc hline).eq
  · rw [if_neg hshown] at hc ⊢
    exact (Ends.fatal hlookup hc rfl hline).eq

end

/-- A name in ASCII is looked up in the table of commands as it is spelled in lower case. -/
theorem lookup?_spelled {command : String} {b : Behaviour}
    (h : (command.toList.all fun c => decide (Text.IsAscii c)) = true ∧
      (Command.spelled.find? fun e => e.1 = Text.foldAscii command).map Prod.snd = some b) :
    Command.lookup? command = some b :=
  Command.lookup?_of_isOneOf (List.forall_mem_singleton.2 h) ⟨command, List.mem_singleton_self _, rfl⟩

theorem decode_exact (v : Variables) (raw : String) : v.decode ("exact:" ++ raw) = "exact:" ++ v.decode raw :=
  v.decode_append_left (by decide) (by decide) raw

/-! ## Typing -/

/-- **What is typed is what is compared.** Where the target of three lines locates an input that is there,
and no call is forced to fail, the first line clears it, the second types the value `v` into it and the
third asserts that its value is exactly `v`: all of them succeed, whatever the variables, the value that
the element had, and the characters of `v`. The report is told of one assertion that held, no
verification error is recorded, and the value of the element is `v` with its variables expanded and its
character references decoded. (The places of the elements are numbers that fit in a word.) -/
theorem ending_typed (x : Replay) (target v ignored : String) {l : Locator}
    (hl : l.probedText? = none) (htarget : Locator.resolve (x.store.decode target) = l) {e : Element}
    (he : x.session.element? l = some e) (hinput : isInput e.tag = true) (hpending : x.session.pending? l = some 0)
    (hfree : ∀ o, x.session.failures.lookup o = none) (hword : x.session.elements.length ≤ Text.maxWord) :
    let lines : List Line :=
      [⟨"clear", target, ignored⟩, ⟨"type", target, v⟩, ⟨"assertValue", target, "exact:" ++ v⟩]
    ∃ y, ending lines x = .ok () y ∧ y.report = x.report.map (Report.passed x.test) ∧
      y.verificationErrors = x.verificationErrors ∧ y.store = x.store ∧
      (y.session.element? l).bind Element.value? = some (x.store.decode v) := by
  intro lines
  obtain ⟨i, hready⟩ := Session.exists_ready hl hfree hword he hpending
  have hclears : Command.lookup? "clear" = some .clear := lookup?_spelled (by decide +kernel)
  have htypes : Command.lookup? "type" = some .type := lookup?_spelled (by decide +kernel)
  have hchecks : Command.lookup? "assertValue" = some .checkValueOrText := lookup?_spelled (by decide +kernel)
  obtain ⟨_, hclear, s₁, rfl, h₁⟩ := executeLine_leaves ⟨"clear", target, ignored⟩ hclears
    (by simp [Line.isAssertion]) (Behaviour.clear_ready _ htarget hready)
  obtain ⟨_, htype, s₂, rfl, h₂⟩ := executeLine_leaves (x := { x with session := s₁ })
    ⟨"type", target, v⟩ htypes (by simp [Line.isAssertion]) (Behaviour.type_ready _ htarget h₁)
  have hvalue := e.value?_type_clear (x.store.decode v)
  have hshown : shown (e.clear.type (x.store.decode v)) = x.store.decode v := by
    rw [shown, if_pos (show isInput (e.clear.type _).tag = true from hinput), hvalue, Option.getD_some]
  have htyped : Ready l i (e.clear.type (x.store.decode v)) s₂ := h₂
  obtain ⟨_, ⟨s₃, rfl, h₃⟩, hassert⟩ := executeLine_exact (x := { x with session := s₂ })
    ⟨"assertValue", target, "exact:" ++ v⟩ hchecks (by simp [Line.isAssertion]) htarget htyped
    (decode_exact x.store v)
  replace hassert := hassert.trans (if_pos hshown)
  let y : Replay := Replay.tell { x with session := s₃ } (Report.passed x.test)
  have hending : ending lines x = .ok () y :=
    (ending_cons_of_ok hclear _).trans <| (ending_cons_of_ok htype _).trans <| ending_cons_of_ok hassert []
  have helement : y.session.element? l = some (e.clear.type (x.store.decode v)) := h₃.element?_eq
  exact ⟨y, hending, rfl, rfl, rfl, by rw [helement]; exact hvalue⟩

/-- A value that names a variable, begins as a pattern does and holds a reference is typed into a field that
another element stands before, and replaces the value that it had. -/
theorem ending_typed_glob :
    let l := Locator.id "q"
    let field := (Element.ofTag "textarea").setValue "old"
    let session := (Session.empty.add (.id "p") (.ofTag "p") 1).add l field 0
    let x := { Replay.ready ⟨"S", "f", "t"⟩ .standard session none with
      store := Variables.empty.set "WHO" "$\x7bwho\x7d" }
    let v := "glob:$\x7bwho\x7d &lt;*"
    x.store.decode v = "glob:$\x7bwho\x7d <*" ∧
      ∃ y, ending [⟨"clear", "id=q", ""⟩, ⟨"type", "id=q", v⟩, ⟨"assertValue", "id=q", "exact:" ++ v⟩] x = .ok () y ∧
        (y.session.element? l).bind Element.value? = some "glob:$\x7bwho\x7d <*" := by
  intro l field session x v
  have hdecoded : x.store.decode v = "glob:$\x7bwho\x7d <*" := by decide +kernel
  obtain ⟨y, hy, -, -, -, hvalue⟩ := ending_typed x "id=q" v "" (l := l) (e := field) rfl
    (by decide +kernel) (by decide +kernel) (by decide +kernel) (by decide +kernel) (fun o => rfl) (by decide +kernel)
  exact ⟨hdecoded, y, hy, hdecoded ▸ hvalue⟩

/-! ## Storing -/

/-- The placeholder of a variable just set decodes to its text, with the character references decoded. -/
theorem decode_exact_placeholder (v : Variables) {name : String} (hname : name ≠ "") (hbrace : '\x7d' ∉ name.toList)
    (text : String) :
    (v.set name text).decode ("exact:" ++ ("$\x7b" ++ name ++ "\x7d")) = "exact:" ++ CharRef.decode text := by
  rw [decode_exact, Variables.decode, Variables.expand_placeholder _ hname hbrace, Variables.get?_set, Option.getD_some]

/-- **What is stored is compared with its references decoded.** Let a target locate an element other than an
input, with the text `s`, before and after `s` is put into the variable `name`. The line that stores its text
in the variable succeeds, whatever the name, the text and the other variables are. The line that then
asserts that the text is exactly the variable succeeds if and only if decoding the character references of `s`
leaves `s` as it is, which is if there is no reference in it; otherwise it stops the run. (No call is forced to
fail, and the places of the elements are numbers that fit in a word.) -/
theorem storeText_assertText (x : Replay) (target : String) {name : String} (hname : name ≠ "")
    (hbrace : '\x7d' ∉ name.toList) {l : Locator} (hl : l.probedText? = none) {e : Element}
    (he : x.session.element? l = some e) (htag : isInput e.tag = false) (hpending : x.session.pending? l = some 0)
    (hfree : ∀ o, x.session.failures.lookup o = none) (hword : x.session.elements.length ≤ Text.maxWord)
    (hbefore : Locator.resolve (x.store.decode target) = l)
    (hafter : Locator.resolve ((x.store.set name e.text).decode target) = l) :
    let first : Line := ⟨"storeText", target, name⟩
    let second : Line := ⟨"assertText", target, "exact:" ++ ("$\x7b" ++ name ++ "\x7d")⟩
    let m := (Pattern.Mismatch.different .exact (CharRef.decode e.text) e.text).message
    (CharRef.decode e.text = e.text ↔ CharRef.NoReference e.text.toList) ∧
      ∃ y z : Replay, executeLine first x = .ok () y ∧ y.store = x.store.set name e.text ∧ y.report = x.report ∧
        z.store = y.store ∧ z.report = y.report ∧ z.verificationErrors = x.verificationErrors ∧
        ending [first, second] x =
          if CharRef.decode e.text = e.text then .ok () (z.tell (Report.passed x.test))
          else .error (.assertionFailed m (location y.store second))
            (z.tell (Report.failed x.test m (location y.store second))) := by
  intro first second m
  refine ⟨CharRef.decode_eq_self_iff e.text, ?_⟩
  obtain ⟨i, hready⟩ := Session.exists_ready hl hfree hword he hpending
  have hstores : Command.lookup? "storeText" = some .storeText := lookup?_spelled (by decide +kernel)
  have hchecks : Command.lookup? "assertText" = some .checkValueOrText := lookup?_spelled (by decide +kernel)
  obtain ⟨s, hs, hstored⟩ := Behaviour.storeText_ready (x := x.context) x.options (show Locator.resolve
    (x.store.decode first.target) = l from hbefore) hready
  let y : Replay := { x with session := s, store := x.store.set name e.text }
  have hfirst : executeLine first x = .ok () y :=
    (Ends.done (l := first) hstores hstored (by simp [first, Line.isAssertion])).eq
  have hvalue : y.store.decode second.value = "exact:" ++ CharRef.decode e.text :=
    decode_exact_placeholder x.store hname hbrace e.text
  obtain ⟨z, ⟨s', rfl, -⟩, hsecond⟩ := executeLine_exact (x := y) second hchecks
    (by simp [second, Line.isAssertion]) hafter hs hvalue
  have hshown : shown e = e.text := by
    rw [shown, if_neg (by simp [htag])]
  refine ⟨y, { y with session := s' }, hfirst, rfl, rfl, rfl, rfl, rfl, ?_⟩
  rw [ending_cons_of_ok hfirst, ending_cons, hsecond, hshown]
  by_cases htext : CharRef.decode e.text = e.text
  · rw [if_pos htext, if_pos htext.symm]
    rfl
  · rw [if_neg htext, if_neg fun heq => htext heq.symm]

/-- The text of a heading is stored under a name that itself begins as a placeholder does. One text names the
same variable and is not expanded again; in the other an ampersand is written as a reference. -/
theorem storeText_assertText_heading :
    let l := Locator.css "h1"
    let x (text : String) := Replay.ready ⟨"S", "f", "t"⟩ .standard
      (Session.empty.add l { Element.ofTag "h1" with text := text } 0) none
    let lines : List Line := [⟨"storeText", "css=h1", "a$\x7bB"⟩,
      ⟨"assertText", "css=h1", "exact:" ++ ("$\x7b" ++ "a$\x7bB" ++ "\x7d")⟩]
    (∃ y, ending lines (x "glob:$\x7ba$\x7bB\x7d & so") = .ok () y) ∧
      ∃ m place y, ending lines (x "Q&amp;A") = .error (.assertionFailed m place) y := by
  intro l x lines
  have hname : "a$\x7bB" ≠ "" := by decide
  have hbrace : '\x7d' ∉ "a$\x7bB".toList := by decide
  have hkept : CharRef.decode "glob:$\x7ba$\x7bB\x7d & so" = "glob:$\x7ba$\x7bB\x7d & so" := by decide +kernel
  have hdecoded : CharRef.decode "Q&amp;A" ≠ "Q&amp;A" := by decide +kernel
  obtain ⟨-, _, z, -, -, -, -, -, -, hz⟩ := storeText_assertText (x "glob:$\x7ba$\x7bB\x7d & so") "css=h1"
    hname hbrace (l := l) rfl rfl (by decide +kernel) rfl (fun o => rfl) (by decide +kernel) (by decide +kernel)
    (by decide +kernel)
  obtain ⟨-, y, z', -, -, -, -, -, -, hz'⟩ := storeText_assertText (x "Q&amp;A") "css=h1"
    hname hbrace (l := l) rfl rfl (by decide +kernel) rfl (fun o => rfl) (by decide +kernel) (by decide +kernel)
    (by decide +kernel)
  exact ⟨⟨_, hz.trans (if_pos hkept)⟩, _, _, _, hz'.trans (if_neg hdecoded)⟩

end Replay

end Selenese
