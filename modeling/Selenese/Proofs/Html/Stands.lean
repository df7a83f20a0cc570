import Selenese.Proofs.Html.Reads
import Selenese.Proofs.Html.Spine

/-!
# Selenese.Proofs.Html.Stands

The states in which a page with a table is read.

* `Builder.Stands b m fs`: the state is in the mode `m`, and what is open holds what the frames say.
  `Stands.text`: where the mode takes characters, a text gets into the innermost frame.
* `Builder.Awaits b m t fs`: a table waits with the white space `t` for what comes next. `Awaits.text`: so it does
  after white space. `Awaits.accept_eq`: with the next tag the white space gets into its place.
-/

namespace Selenese.Html

/-- A mode that neither formatting nor the reading of text depends on. -/
def Mode.IsOrdinary (m : Mode) : Prop := m ≠ .inCell ∧ m ≠ .inText

instance (m : Mode) : Decidable m.IsOrdinary := inferInstanceAs (Decidable (_ ∧ _))

/-- A character is added to the innermost element in this mode. -/
def Mode.Takes (m : Mode) (c : Char) : Prop :=
  match m with
  | .inBody | .inCell | .inText => True
  | .inHead | .afterHead | .afterBody | .afterAfterBody => isSpace c = true
  | _ => False

namespace Builder

structure Stands (b : Builder) (m : Mode) (fs : List Frame) : Prop where
  mode : b.mode = m
  lexing : b.lexing = if m = .inText then .escapable "title" else .data
  resumed : m = .inText → b.resumed = .inHead
  formatting : b.formatting = if m = .inCell then [.barrier] else []
  keepsLineFeed : b.skipLineFeed = false
  inPlace : b.fostering = false
  pending : b.pending = []
  spine : b.document.Spine b.document.next [] b.stack fs

variable {b : Builder} {m m' : Mode} {f g : Frame} {fs : List Frame} {o : Open} {os : List Open} {names : List String}

theorem place_eq (hstack : b.stack = o :: os) (h : b.fostering = false) (c : Child) :
    b.place c = { b with document := b.document.append o.id c } := by
  have hplace : b.place c = b.placeIn o c := by
    rw [place, hstack]
  rw [hplace, placeIn, if_neg (by rw [h, Bool.false_and]; exact Bool.false_ne_true)]

theorem insertNamed_eq (hstack : b.stack = o :: os) (h : b.fostering = false) (name : Name)
    (attributes : List (String × String)) :
    b.insertNamed name attributes =
      { b with
        document := (b.document.create name attributes).append o.id (.element b.document.next)
        stack := ⟨b.document.next, name⟩ :: b.stack } := by
  have hplace := place_eq (b := { b with document := b.document.create name attributes }) hstack h
  rw [insertNamed]
  simp only [hplace]

/-- No rules but those of the mode are asked inside an element of HTML. -/
theorem dispatch_of_current {name : String} (hcurrent : b.current = .html name) (hmode : b.mode = m) (t : Token) :
    dispatch t b = Rules.inMode m t b := by
  have hforeign : Rules.isForeign t b = false := by
    cases t <;> simp only [Rules.isForeign, hcurrent] <;> rfl
  rw [dispatch, hforeign, hmode]
  rfl

namespace Stands

theorem exists_stack (h : b.Stands m (f :: fs)) : ∃ o os, b.stack = o :: os ∧ o.name = .html f.name := by
  have hnames := h.spine.names
  generalize b.stack = stack at hnames
  cases stack with
  | nil => cases hnames
  | cons o os => exact ⟨o, os, rfl, (List.cons.inj hnames).1⟩

theorem current_eq (h : b.Stands m (f :: fs)) : b.current = .html f.name := by
  obtain ⟨o, os, hstack, hname⟩ := h.exists_stack
  rw [current, hstack]
  exact hname

theorem dispatch_eq (h : b.Stands m (f :: fs)) (t : Token) : dispatch t b = Rules.inMode m t b :=
  dispatch_of_current h.current_eq h.mode t

/-! ## Changes -/

theorem insert (h : b.Stands m (f :: fs)) (t : Tag) :
    (b.insert t).Stands m (⟨t.name, t.attributes, []⟩ :: f :: fs) := by
  obtain ⟨o, os, hstack, -⟩ := h.exists_stack
  have hspine := h.spine
  rw [hstack] at hspine
  rw [Builder.insert, insertNamed_eq hstack h.inPlace]
  refine ⟨h.mode, h.lexing, h.resumed, h.formatting, h.keepsLineFeed, h.inPlace, h.pending, ?_⟩
  dsimp only
  rw [Document.next_append, Document.next_create, hstack]
  exact hspine.open t.name t.attributes

theorem insertChar (h : b.Stands m (f :: fs)) (c : Char) : (b.insertChar c).Stands m (f.addText [c] :: fs) := by
  obtain ⟨o, os, hstack, -⟩ := h.exists_stack
  have hspine := h.spine
  rw [hstack] at hspine
  rw [Builder.insertChar, place_eq hstack h.inPlace]
  refine ⟨h.mode, h.lexing, h.resumed, h.formatting, h.keepsLineFeed, h.inPlace, h.pending, ?_⟩
  dsimp only
  rw [Document.next_append, hstack]
  exact hspine.text c

theorem insertChars (h : b.Stands m (f :: fs)) (t : List Char) :
    (t.foldl Builder.insertChar b).Stands m (f.addText t :: fs) := by
  induction t generalizing b f with
  | nil => exact h
  | cons c t ih =>
    have hrest := ih (h.insertChar c)
    rwa [← Frame.addText_append] at hrest

theorem pop (h : b.Stands m (f :: g :: fs)) : b.pop.Stands m (g.push f.node :: fs) := by
  refine ⟨h.mode, h.lexing, h.resumed, h.formatting, h.keepsLineFeed, h.inPlace, h.pending, ?_⟩
  have hspine := h.spine
  have hnames := hspine.names
  show b.document.Spine b.document.next [] (b.stack.drop 1) _
  generalize b.stack = stack at hspine hnames
  match stack, hnames with
  | _ :: _ :: _, _ => exact hspine.pop

theorem noFrames (h : b.Stands m fs) : b.noFrames.Stands m fs :=
  ⟨h.mode, h.lexing, h.resumed, h.formatting, h.keepsLineFeed, h.inPlace, h.pending, h.spine⟩

theorem withMode (h : b.Stands m fs) (hm : m.IsOrdinary) (hm' : m'.IsOrdinary) : (b.withMode m').Stands m' fs := by
  have hlexing := h.lexing
  have hformatting := h.formatting
  rw [if_neg hm.2] at hlexing
  rw [if_neg hm.1] at hformatting
  refine ⟨rfl, ?_, fun heq => absurd heq hm'.2, ?_, h.keepsLineFeed, h.inPlace, h.pending, h.spine⟩
  · rw [if_neg hm'.2]
    exact hlexing
  · rw [if_neg hm'.1]
    exact hformatting

/-! ## Text -/

theorem accept_eq (h : b.Stands m (f :: fs)) {t : Token} {b' : Builder} (hrule : Rules.inMode m t b = .done b') :
    accept b t = b' :=
  Builder.accept_eq h.keepsLineFeed (.done (n := 0) ((h.dispatch_eq t).trans hrule)) (by decide)

theorem reconstruct_eq (h : b.Stands m fs) : b.reconstruct = b := by
  have hformatting := h.formatting
  split at hformatting
  all_goals
    rw [reconstruct, hformatting]
    show { b with formatting := _ } = b
    rw [← hformatting]

theorem bodyChar (h : b.Stands m (f :: fs)) {c : Char} (hc : c ≠ '\x00') :
    (Rules.bodyChar c b).Stands m (f.addText [c] :: fs) := by
  rw [Rules.bodyChar, if_neg hc, h.reconstruct_eq]
  dsimp only
  split
  · exact h.insertChar c
  · exact (h.insertChar c).noFrames

/-- A character that is added to the innermost element as it is. -/
theorem char (h : b.Stands m (f :: fs)) {c : Char} (hm : m.Takes c) (hc : c ≠ '\x00') :
    (accept b (.char c)).Stands m (f.addText [c] :: fs) := by
  cases m
  case inHead | afterHead =>
    have hspace : isSpace c = true := hm
    rw [h.accept_eq (t := .char c) (if_pos hspace)]
    exact h.insertChar c
  case afterBody | afterAfterBody =>
    have hspace : isSpace c = true := hm
    rw [h.accept_eq (t := .char c) (if_pos hspace)]
    exact h.bodyChar hc
  case inBody | inCell =>
    rw [h.accept_eq rfl]
    exact h.bodyChar hc
  case inText =>
    rw [h.accept_eq rfl]
    exact h.insertChar c
  all_goals cases hm

theorem text (h : b.Stands m (f :: fs)) {l : List Char} (hm : ∀ c ∈ l, m.Takes c) (hl : '\x00' ∉ l) (r : List Char) :
    ∃ b', Reads (l.flatMap escapeChar ++ r) b r b' ∧ b'.Stands m (f.addText l :: fs) := by
  refine Reads.text (P := fun t b => b.Stands m (f.addText t :: fs)) (fun t b hb => ?_) (fun t b c hc hb => ?_) hl r h
  · rw [hb.lexing]
    split <;> trivial
  · rw [Frame.addText_append]
    exact hb.char (hm c hc) (ne_of_mem_of_not_mem hc hl)

end Stands

/-! ## Text between the parts of a table -/

def inTables : List Mode := [.inTable, .inTableBody, .inRow]

/-- The state is in a mode of tables once the white space `t`, which is still held back, is in its place. -/
structure Awaits (b : Builder) (m : Mode) (t : List Char) (fs : List Frame) : Prop where
  stands : Stands { b with mode := m, pending := [] } m fs
  blank : t.all isSpace = true
  pending : b.pending = t.reverse
  mode : b.mode = if t = [] then m else .inTableText
  resumed : t ≠ [] → b.resumed = m

theorem Stands.awaits (h : b.Stands m fs) : b.Awaits m [] fs := by
  have hsame : { b with mode := m, pending := [] } = b := by
    rw [← h.mode, ← h.pending]
  exact ⟨hsame.symm ▸ h, rfl, h.pending, h.mode, fun hne => absurd rfl hne⟩

namespace Awaits

variable {t : List Char}

theorem current_eq (h : b.Awaits m t (f :: fs)) : b.current = .html f.name := h.stands.current_eq

theorem lexing (h : b.Awaits m t fs) : b.lexing = if m = .inText then .escapable "title" else .data :=
  h.stands.lexing

theorem char (h : b.Awaits m t (f :: fs)) (hm : m ∈ inTables)
    (hf : f.name ∈ ["table", "tbody", "tfoot", "thead", "tr"]) {c : Char} (hc : isSpace c = true) :
    (accept b (.char c)).Awaits m (t ++ [c]) (f :: fs) := by
  have hskip : b.skipLineFeed = false := h.stands.keepsLineFeed
  have hzero : c ≠ '\x00' := by
    rintro rfl
    cases hc
  have hblank : (t ++ [c]).all isSpace = true := by
    rw [List.all_append, h.blank, List.all_cons, hc]
    rfl
  have hpending : c :: b.pending = (t ++ [c]).reverse := by
    rw [List.reverse_append, h.pending]
    rfl
  have hmode' : Mode.inTableText = if t ++ [c] = [] then m else .inTableText := by
    rw [if_neg (by simp)]
  -- The first character changes to the mode for text in tables, which takes it; the next ones find that mode.
  by_cases ht : t = []
  · have hmode : b.mode = m := h.mode.trans (if_pos ht)
    let b' : Builder := { b with resumed := b.mode, mode := .inTableText }
    have hrule : Rules.inMode m (.char c) b = Rules.inTable (.char c) b := by
      simp only [inTables, List.mem_cons, List.not_mem_nil, or_false] at hm
      rcases hm with rfl | rfl | rfl <;> rfl
    have hany : b.current.isAny ["table", "tbody", "tfoot", "thead", "tr"] = true := by
      rw [h.current_eq]
      simpa [Name.isAny, Name.html] using hf
    have hagain : dispatch (.char c) b = .again b' :=
      ((dispatch_of_current h.current_eq hmode _).trans hrule).trans (if_pos hany)
    have hdone : dispatch (.char c) b' = .done { b' with pending := c :: b.pending } :=
      (dispatch_of_current (b := b') h.current_eq rfl (.char c)).trans (congrArg Progress.done (if_neg hzero))
    rw [Builder.accept_eq hskip (.again hagain (.done (n := 0) hdone)) (by decide)]
    have hstands := h.stands
    refine ⟨⟨rfl, hstands.lexing, fun heq => absurd (heq ▸ hm) (by decide), hstands.formatting,
      hstands.keepsLineFeed, hstands.inPlace, rfl, hstands.spine⟩, hblank, hpending, hmode', fun _ => hmode⟩
  · have hmode : b.mode = .inTableText := h.mode.trans (if_neg ht)
    have hdone : dispatch (.char c) b = .done { b with pending := c :: b.pending } :=
      (dispatch_of_current h.current_eq hmode (.char c)).trans (congrArg Progress.done (if_neg hzero))
    rw [Builder.accept_eq hskip (.done (n := 0) hdone) (by decide)]
    exact ⟨h.stands, hblank, hpending, hmode.trans hmode', fun _ => h.resumed ht⟩

theorem text (h : b.Stands m (f :: fs)) (hm : m ∈ inTables) (hf : f.name ∈ ["table", "tbody", "tfoot", "thead", "tr"])
    {l : List Char} (hl : ∀ c ∈ l, isSpace c = true) (r : List Char) :
    ∃ b', Reads (l.flatMap escapeChar ++ r) b r b' ∧ b'.Awaits m l (f :: fs) := by
  refine Reads.text (P := fun t b => b.Awaits m t (f :: fs)) (fun t b hb => ?_) (fun t b c hc hb => ?_) ?_ r h.awaits
  · rw [hb.lexing]
    split <;> trivial
  · exact hb.char hm hf (hl c hc)
  · exact fun hzero => absurd (hl _ hzero) (by decide)

/-- A tag that follows is read once the white space is in its place. -/
theorem accept_eq (h : b.Awaits m t (f :: fs)) (tok : Token) (htok : ∀ c, tok ≠ .char c) :
    ∃ b₁, b₁.Stands m (f.addText t :: fs) ∧
      ∀ b', Rules.inMode m tok b₁ = .done b' → accept b tok = b' := by
  have hskip : b.skipLineFeed = false := h.stands.keepsLineFeed
  let b₀ : Builder := { b with mode := m, pending := [] }
  by_cases ht : t = []
  · subst ht
    have hsame : b₀ = b := by
      have hmode : m = b.mode := h.mode.symm
      have hpending : [] = b.pending := h.pending.symm
      simp only [b₀, hmode, hpending]
    exact ⟨b₀, h.stands, fun b' hrule => hsame ▸ h.stands.accept_eq hrule⟩
  · have hmode : b.mode = .inTableText := h.mode.trans (if_neg ht)
    have hbefore : { b with pending := [], mode := b.resumed } = b₀ := by
      simp only [b₀, h.resumed ht]
    have hplace : Rules.placePending b = t.foldl insertChar b₀ := by
      rw [Rules.placePending, h.pending, List.reverse_reverse, if_pos h.blank, hbefore]
    have hstands : (Rules.placePending b).Stands m (f.addText t :: fs) := hplace ▸ h.stands.insertChars t
    have hagain : dispatch tok b = .again (Rules.placePending b) := by
      rw [dispatch_of_current h.current_eq hmode]
      cases tok with
      | char c => exact absurd rfl (htok c)
      | _ => rfl
    exact ⟨_, hstands, fun b' hrule => Builder.accept_eq hskip
      (.again hagain (.done (n := 0) ((hstands.dispatch_eq tok).trans hrule))) (by decide)⟩

end Awaits

end Builder

end Selenese.Html
