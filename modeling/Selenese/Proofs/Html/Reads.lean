import Selenese.Html.Page
import Selenese.Proofs.Html.Markup

/-!
# Selenese.Proofs.Html.Reads

Reading a page without counting.

* `Builder.Settles t n b b'`: a token is used up in `n` rounds at most. `Builder.accept_eq`: then the state
  after it is `b'`.
* `Builder.Reads l b l' b'`: the reading of the text `l` in the state `b` goes on with `l'` in the state `b'`.
  `Reads.trans` puts two pieces together, and `Reads.finish` ends the page.
* `Reads.text`: a written text is read character by character.
-/

namespace Selenese.Html

/-- Text is read with its references. -/
def Lexing.Decodes : Lexing → Prop
  | .data | .escapable _ => True
  | _ => False

theorem Lexing.Decodes.nextTokens_escapeChar {lexing : Lexing} (h : lexing.Decodes) {c : Char} (hc : c ≠ '\x00')
    (foreign : Bool) (r : List Char) : nextTokens foreign (escapeChar c ++ r) lexing = ([.char c], lexing, r) := by
  cases lexing with
  | data => exact dataTokens_escapeChar foreign c r
  | escapable name => exact textTokens_escapeChar (.escapable name) name hc r
  | _ => cases h

namespace Builder

/-! ## Tokens -/

inductive Settles (t : Token) : Nat → Builder → Builder → Prop where
  | done {n : Nat} {b b' : Builder} : dispatch t b = .done b' → Settles t (n + 1) b b'
  | again {n : Nat} {b b' b'' : Builder} : dispatch t b = .again b' → Settles t n b' b'' → Settles t (n + 1) b b''

variable {t : Token} {n m : Nat} {b b' b'' : Builder}

theorem Settles.settle_eq (h : Settles t n b b') (hn : n ≤ m) : settle t m b = b' := by
  induction h generalizing m with
  | done hdone =>
    obtain ⟨m, rfl⟩ : ∃ k, m = k + 1 := ⟨m - 1, by omega⟩
    rw [settle, hdone]
  | again hagain _ ih =>
    obtain ⟨m, rfl⟩ : ∃ k, m = k + 1 := ⟨m - 1, by omega⟩
    rw [settle, hagain]
    exact ih (by omega)

theorem accept_eq (hskip : b.skipLineFeed = false) (h : Settles t n b b') (hn : n ≤ 32) : accept b t = b' := by
  have hsame : { b with skipLineFeed := false } = b := by
    rw [← hskip]
  have hpatience : n ≤ b.patience := by
    unfold patience
    omega
  rw [accept, hskip, hsame]
  exact h.settle_eq hpatience

/-! ## Texts -/

def Reads (l : List Char) (b : Builder) (l' : List Char) (b' : Builder) : Prop :=
  ∀ fuel, l.length < fuel → ∃ fuel', l'.length < fuel' ∧ read fuel l b = read fuel' l' b'

variable {l l' l'' r : List Char} {lexing : Lexing} {ts : List Token}

theorem Reads.refl (l : List Char) (b : Builder) : Reads l b l b := fun fuel h => ⟨fuel, h, rfl⟩

theorem Reads.trans (h : Reads l b l' b') (h' : Reads l' b' l'' b'') : Reads l b l'' b'' := by
  intro fuel hfuel
  obtain ⟨fuel', hfuel', heq⟩ := h fuel hfuel
  obtain ⟨fuel'', hfuel'', heq'⟩ := h' fuel' hfuel'
  exact ⟨fuel'', hfuel'', heq.trans heq'⟩

theorem Reads.tokens (htokens : nextTokens b.inForeign l b.lexing = (ts, lexing, r)) (hlength : r.length < l.length) :
    Reads l b r (ts.foldl accept { b with lexing := lexing }) := by
  intro fuel hfuel
  obtain ⟨fuel, rfl⟩ : ∃ k, fuel = k + 1 := ⟨fuel - 1, by omega⟩
  refine ⟨fuel, by omega, ?_⟩
  have hl : l.isEmpty = false := by
    cases l with
    | nil => cases hlength
    | cons => rfl
  rw [read, htokens]
  dsimp only
  rw [hl]
  rfl

theorem Reads.token (htokens : nextTokens b.inForeign l b.lexing = ([t], b.lexing, r)) (hlength : r.length < l.length) :
    Reads l b r (accept b t) := Reads.tokens htokens hlength

/-- At its end the page is told so. -/
theorem Reads.finish (h : Reads l b [] b') (hlexing : b'.lexing = .data) :
    read (l.length + 1) l b = accept b' .finish := by
  obtain ⟨fuel, hfuel, heq⟩ := h _ (Nat.lt_succ_self _)
  obtain ⟨fuel, rfl⟩ : ∃ k, fuel = k + 1 := ⟨fuel - 1, by omega⟩
  have hsame : { b' with lexing := .data } = b' := by
    rw [← hlexing]
  rw [heq, read, hlexing]
  show accept { b' with lexing := .data } .finish = accept b' .finish
  rw [hsame]

section

variable (hlexing : b.lexing = .data)

include hlexing

theorem Reads.openTag {name : String} (hname : IsPlain name) (r : List Char) :
    Reads (openTag name ++ r) b r (accept b (.opening ⟨name, [], false⟩)) := by
  refine .token ?_ (by simp [Html.openTag]; omega)
  rw [hlexing]
  exact dataTokens_openTag _ hname r

theorem Reads.closeTag {name : String} (hname : IsPlain name) (r : List Char) :
    Reads (closeTag name ++ r) b r (accept b (.closing name)) := by
  refine .token ?_ (by simp [Html.closeTag]; omega)
  rw [hlexing]
  exact dataTokens_closeTag _ hname r

theorem Reads.voidTag {name : String} (hname : IsPlain name) {attributes : List (String × String)}
    (hplain : ∀ a ∈ attributes, IsPlain a.1 ∧ '\x00' ∉ a.2.toList) (hnodup : (attributes.map Prod.fst).Nodup)
    (r : List Char) :
    Reads (voidTag name attributes ++ r) b r (accept b (.opening ⟨name, attributes, true⟩)) := by
  refine .token ?_ (by simp [Html.voidTag]; omega)
  rw [hlexing]
  exact dataTokens_voidTag _ hname hplain hnodup r

end

/-- The end of an element that holds text alone is the end of the text too. -/
theorem Reads.endText {name : String} (hlexing : b.lexing = .escapable name) (hname : IsPlain name) (r : List Char) :
    Reads (Html.closeTag name ++ r) b r (accept { b with lexing := .data } (.closing name)) := by
  have htokens : nextTokens b.inForeign (Html.closeTag name ++ r) b.lexing = ([.closing name], .data, r) := by
    rw [hlexing]
    exact textTokens_closeTag _ hname true r
  exact .tokens htokens (by simp [Html.closeTag]; omega)

/-- The characters of a text are read one after the other, and each of them keeps what `P` says of the
characters so far and the state after them. -/
theorem Reads.text {P : List Char → Builder → Prop} (hdecodes : ∀ t b, P t b → b.lexing.Decodes)
    (hstep : ∀ t b c, c ∈ l → P t b → P (t ++ [c]) (accept b (.char c))) (hl : '\x00' ∉ l) (r : List Char)
    (h : P [] b) : ∃ b', Reads (l.flatMap escapeChar ++ r) b r b' ∧ P l b' := by
  suffices hrest : ∀ rest read, (∀ c ∈ rest, c ∈ l) → ∀ b, P read b →
      ∃ b', Reads (rest.flatMap escapeChar ++ r) b r b' ∧ P (read ++ rest) b' from hrest l [] (fun _ => id) b h
  -- What is left to be read gets shorter, while `P` speaks of what was read.
  intro rest
  induction rest with
  | nil => exact fun read _ b hb => ⟨b, .refl _ _, by rwa [List.append_nil]⟩
  | cons c rest ih =>
    intro read hmem b hb
    obtain ⟨hc, hrest⟩ := List.forall_mem_cons.1 hmem
    obtain ⟨b', hreads, hb'⟩ := ih (read ++ [c]) hrest _ (hstep read b c hc hb)
    refine ⟨b', ?_, by rwa [List.append_assoc] at hb'⟩
    rw [List.flatMap_cons, List.append_assoc]
    have hpos := List.length_pos_iff.2 (escapeChar_ne_nil c)
    exact (Reads.token ((hdecodes read b hb).nextTokens_escapeChar (ne_of_mem_of_not_mem hc hl) _ _)
      (by simp only [List.length_append]; omega)).trans hreads

end Builder

end Selenese.Html
