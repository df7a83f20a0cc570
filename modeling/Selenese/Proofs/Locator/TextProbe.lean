import Selenese.Locator.TextProbe
import Selenese.Proofs.TestId
import Selenese.Proofs.Text.Affix

/-!
# Selenese.Proofs.Locator.TextProbe

String expressions of XPath 1.0, and the texts that are probed for.

* `Denotes e v`: the expression `e` is one quoted literal, or a call of `concat` with two or more of
  them, and its string value is `v`.
* `quoteLiteral_denotes`: a quoted text is such an expression, and its value is the text.
* `readLiteral_of_denotes`: a reader of such expressions finds their value.
* `probedText?_containingText`: so the probe for a text tells that text.
-/

namespace Selenese.Locator

open Text

/-! ## String expressions -/

/-- A literal stands between two quotes of one kind, and has no quote of that kind in it. -/
inductive Literal : List Char → List Char → Prop where
  | quoted {q : Char} {v : List Char} : q = '\'' ∨ q = '"' → q ∉ v → Literal (between q v) v

/-- Literals with commas between them; there may be blanks before and after a comma. -/
inductive Arguments : List Char → List (List Char) → Prop where
  | last {e v : List Char} : Literal e v → Arguments e [v]
  | more {e v before after rest : List Char} {vs : List (List Char)} : Literal e v →
      (∀ c ∈ before ++ after, c = ' ') → Arguments rest vs →
      Arguments (e ++ (before ++ ',' :: after) ++ rest) (v :: vs)

inductive Denotes : List Char → List Char → Prop where
  | literal {e v : List Char} : Literal e v → Denotes e v
  | concat {args : List Char} {vs : List (List Char)} : Arguments args vs → 2 ≤ vs.length →
      Denotes ("concat(".toList ++ args ++ [')']) vs.flatten

/-! ## Quoting -/

theorem notMem_of_mem_splitOn {sep : Char} {l p : List Char} (h : p ∈ l.splitOn sep) : sep ∉ p := by
  induction l generalizing p with
  | nil =>
    cases List.mem_singleton.1 h
    exact List.not_mem_nil
  | cons c r ih =>
    rw [List.splitOn_cons_eq_if_modifyHead] at h
    cases hr : r.splitOn sep with
    | nil => exact absurd hr (List.splitOn_ne_nil sep r)
    | cons first rest =>
      rw [hr] at h ih
      split at h
      · rcases List.mem_cons.1 h with rfl | h
        · exact List.not_mem_nil
        · exact ih h
      · rename_i hc
        rcases List.mem_cons.1 h with rfl | h
        · rw [List.mem_cons, not_or]
          exact ⟨fun hsep => hc (beq_iff_eq.2 hsep.symm), ih List.mem_cons_self⟩
        · exact ih (List.mem_cons_of_mem _ h)

/-- The pieces in single quotes, with a quoted single quote between two of them. -/
theorem arguments_pieces {pieces : List (List Char)} (hne : pieces ≠ [])
    (h : ∀ p ∈ pieces, '\'' ∉ p) :
    Arguments (concatArguments pieces) (pieces.intersperse ['\'']) := by
  induction pieces with
  | nil => exact absurd rfl hne
  | cons p rest ih =>
    have hp : Literal (between '\'' p) p := .quoted (.inl rfl) (h p List.mem_cons_self)
    cases rest with
    | nil => exact .last hp
    | cons p' rest =>
      have hrest := ih (List.cons_ne_nil _ _) fun q hq => h q (List.mem_cons_of_mem _ hq)
      have hquote : Literal (between '"' ['\'']) ['\''] := .quoted (.inr rfl) (by decide)
      have hcomma : ∀ c ∈ ([] : List Char) ++ [' '], c = ' ' := List.forall_mem_singleton.2 rfl
      have hall := Arguments.more hp hcomma (.more hquote hcomma hrest)
      have htext : concatArguments (p :: p' :: rest) =
          between '\'' p ++ ([] ++ ',' :: [' ']) ++ (between '"' ['\''] ++ ([] ++ ',' :: [' ']) ++
            concatArguments (p' :: rest)) := by
        rw [concatArguments, List.append_assoc, List.append_assoc]
        · rfl
        · exact List.cons_ne_nil _ _
      rw [htext, List.intersperse_cons_cons]
      exact hall

/-- A text with a separator in it has at least two pieces. -/
theorem two_le_length_splitOn {sep : Char} {l : List Char} (h : sep ∈ l) :
    2 ≤ (l.splitOn sep).length := by
  obtain ⟨a, b, rfl⟩ := List.append_of_mem h
  have ha := List.length_pos_iff.2 (List.splitOn_ne_nil sep a)
  have hb := List.length_pos_iff.2 (List.splitOn_ne_nil sep b)
  rw [List.splitOn_append_cons_self, List.length_append]
  omega

theorem quoteLiteral_denotes (t : List Char) : Denotes (quoteLiteral t) t := by
  rw [quoteLiteral]
  split
  · rename_i hsingle
    exact .literal (.quoted (.inl rfl) hsingle)
  · rename_i hsingle
    split
    · rename_i hdouble
      exact .literal (.quoted (.inr rfl) hdouble)
    · have hpieces := arguments_pieces (List.splitOn_ne_nil '\'' t) fun _ hp =>
        notMem_of_mem_splitOn hp
      have htwo : 2 ≤ ((t.splitOn '\'').intersperse ['\'']).length := by
        have := two_le_length_splitOn (Decidable.not_not.1 hsingle)
        rw [List.length_intersperse]
        omega
      have hvalue : ((t.splitOn '\'').intersperse ['\'']).flatten = t := List.intercalate_splitOn '\''
      have hconcat := Denotes.concat hpieces htwo
      rw [hvalue] at hconcat
      rw [splitOn_eq]
      exact hconcat

/-! ## Reading -/

theorem readPieces_some {q : Char} {v : List Char} (h : q ∉ v) (rest : List Char) :
    readPieces (some q) (v ++ q :: rest) = (readPieces none rest).map (v ++ ·) := by
  induction v with
  | nil => simp [readPieces]
  | cons c r ih =>
    obtain ⟨hc, hr⟩ := not_or.1 (mt List.mem_cons.2 h)
    rw [List.cons_append, readPieces]
    simp only [if_neg (Ne.symm hc), ih hr, Option.map_map]
    rfl

theorem readPieces_of_literal {e v : List Char} (h : Literal e v) (rest : List Char) :
    readPieces none (e ++ rest) = (readPieces none rest).map (v ++ ·) := by
  cases h with
  | @quoted q v hq hv =>
    rw [between, List.cons_append, List.cons_append, List.append_assoc, List.singleton_append,
      readPieces]
    simp only [if_pos hq, readPieces_some hv]

theorem readPieces_separators {l : List Char} (h : ∀ c ∈ l, c = ',' ∨ c = ' ') (rest : List Char) :
    readPieces none (l ++ rest) = readPieces none rest := by
  induction l with
  | nil => rfl
  | cons c r ih =>
    obtain ⟨hc, hr⟩ := List.forall_mem_cons.1 h
    have hquote : ¬ (c = '\'' ∨ c = '"') := by rcases hc with rfl | rfl <;> decide
    rw [List.cons_append, readPieces]
    simp only [if_neg hquote, if_pos hc, ih hr]

theorem readPieces_of_arguments {args : List Char} {vs : List (List Char)} (h : Arguments args vs) :
    readPieces none args = some vs.flatten := by
  induction h with
  | @last e v h =>
    have hread := readPieces_of_literal h []
    rw [List.append_nil] at hread
    rw [hread]
    simp [readPieces]
  | @more e v before after rest vs h hblank _ ih =>
    have hseparators : ∀ c ∈ before ++ ',' :: after, c = ',' ∨ c = ' ' := by
      simp only [List.mem_append, List.mem_cons] at hblank ⊢
      rintro c (hc | rfl | hc)
      · exact .inr (hblank c (.inl hc))
      · exact .inl rfl
      · exact .inr (hblank c (.inr hc))
    rw [List.append_assoc, readPieces_of_literal h, readPieces_separators hseparators, ih]
    rfl

theorem readLiteral_of_denotes {e v : List Char} (h : Denotes e v) :
    readLiteral (String.ofList e) = some (String.ofList v) := by
  cases h with
  | literal h =>
    have hread := readPieces_of_arguments (.last h)
    have hcall : afterPrefix? "concat(" (String.ofList e) = none := by
      cases h with
      | @quoted quote _ hq _ =>
        have htext : (String.ofList (between quote v)).toList = between quote v :=
          String.toList_ofList
        rw [afterPrefix?, htext]
        rcases hq with rfl | rfl <;> rfl
    rw [readLiteral, hcall, Option.bind_some, String.toList_ofList, hread]
    simp
  | @concat args vs h _ =>
    have hread := readPieces_of_arguments h
    have htext : String.ofList ("concat(".toList ++ args ++ [')']) =
        "concat(" ++ (String.ofList args ++ ")") := by
      rw [String.ofList_append, String.ofList_append, String.ofList_toList, String.append_assoc]
    rw [readLiteral, htext, afterPrefix?_append]
    dsimp only
    rw [beforeSuffix?_append, Option.bind_some, String.toList_ofList, hread]
    rfl

theorem probedText?_containingText (t : String) : probedText? (containingText t) = some t := by
  have hread := readLiteral_of_denotes (quoteLiteral_denotes t.toList)
  rw [String.ofList_toList] at hread
  rw [containingText, probedText?, String.append_assoc, afterPrefix?_append, Option.bind_some,
    beforeSuffix?_append, Option.bind_some, hread]

end Selenese.Locator
