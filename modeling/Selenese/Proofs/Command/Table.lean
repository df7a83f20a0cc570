import Selenese.Proofs.Command.Execute
import Selenese.Proofs.Text.Lowercase
import Selenese.Script

/-!
# Selenese.Proofs.Command.Table

Assertions and verifications in the table of commands.

* `Command.lookup?_eq`: names are looked up among the `spelled` ones, in lower case.
  `Command.lookup?_ascii`: of an ASCII name, this is the lower case of its letters.
* `Line.lookup?_verifying`: a known assertion with `verify` in place of `assert` is known, with the
  same behaviour.
* `Line.not_polls`: no assertion has a behaviour that polls.
-/

namespace Selenese

open Text

namespace Command

/-- The table with its names in lower case. -/
def spelled : List (List Char × Behaviour) := table.map fun e => (foldAscii e.1, e.2)

theorem table_ascii : ∀ e ∈ table, ∀ c ∈ e.1.toList, IsAscii c := by
  have h : table.all (fun e => e.1.toList.all fun c => decide (IsAscii c)) = true := by
    decide +kernel
  exact fun e he => isAscii_of_all (List.all_eq_true.1 h e he)

theorem lookup?_eq (command : String) :
    lookup? command = (spelled.find? fun e => e.1 = (lowercase command).toList).map Prod.snd := by
  have hcongr : ∀ (l : List (String × Behaviour)), (∀ e ∈ l, ∀ c ∈ e.1.toList, IsAscii c) →
      l.find? (fun e => lowercase e.1 = lowercase command) =
        l.find? fun e => foldAscii e.1 = (lowercase command).toList := by
    intro l hl
    induction l with
    | nil => rfl
    | cons e r ih =>
      have he : lowercase e.1 = lowercase command ↔ foldAscii e.1 = (lowercase command).toList := by
        rw [foldAscii, ← toList_lowercase_ascii (hl e List.mem_cons_self), String.toList_inj]
      rw [List.find?_cons, List.find?_cons, ih fun e' h => hl e' (List.mem_cons_of_mem _ h),
        decide_eq_decide.2 he]
  rw [lookup?, recorded?, hcongr table table_ascii, spelled, List.find?_map, Option.map_map]
  rfl

theorem lookup?_ascii {command : String} (h : ∀ c ∈ command.toList, IsAscii c) :
    lookup? command = (spelled.find? fun e => e.1 = foldAscii command).map Prod.snd := by
  rw [lookup?_eq, toList_lowercase_ascii h]
  rfl

theorem spelled_ascii : ∀ e ∈ spelled, ∀ c ∈ e.1, IsAscii c := by
  intro e he
  obtain ⟨t, ht, rfl⟩ := List.mem_map.1 he
  intro c hc
  obtain ⟨d, hd, rfl⟩ := List.mem_map.1 hc
  exact toLower_ascii_iff.2 (table_ascii t ht d hd)

/-- Every assertion of the table has a verification beside it, and does not poll. -/
theorem spelled_assertions : ∀ e ∈ spelled, "assert".toList.isPrefixOf e.1 →
    e.2.polls = false ∧
      (spelled.find? fun e' => e'.1 = "verify".toList ++ e.1.drop 6).map Prod.snd = some e.2 := by
  decide +kernel

end Command

namespace Line

/-- The line with `verify` in place of the first six characters of its command, as for an
assertion. -/
def verifying (l : Line) : Line :=
  { l with command := "verify" ++ String.ofList (l.command.toList.drop 6) }

theorem lowercase_of_isAssertion {l : Line} (h : l.isAssertion = true) :
    (lowercase l.command).toList =
      "assert".toList ++ lowerAfter (l.command.toList.take 6).reverse
        (l.command.toList.drop 6) := by
  have hmap : (l.command.toList.take 6).map Char.toLower = "assert".toList := by
    simpa [isAssertion] using h
  have hascii : ∀ c ∈ l.command.toList.take 6, IsAscii c := by
    intro c hc
    have hmem : c.toLower ∈ "assert".toList := hmap ▸ List.mem_map_of_mem hc
    have : ∀ d ∈ "assert".toList, IsAscii d := isAscii_of_all (by decide)
    exact toLower_ascii_iff.1 (this _ hmem)
  have := lowerAfter_ascii hascii [] (l.command.toList.drop 6)
  rw [List.take_append_drop, hmap, List.append_nil] at this
  rw [lowercase, String.toList_ofList, this]

/-- A known assertion is found under its prefix and its suffix, lowered on its own. -/
theorem spelled_of_isAssertion {l : Line} (h : l.isAssertion = true) {b : Behaviour}
    (hb : Command.lookup? l.command = some b) :
    ∃ e ∈ Command.spelled, e.2 = b ∧ "assert".toList.isPrefixOf e.1 = true ∧
      ∀ before, lowerAfter before (l.command.toList.drop 6) = e.1.drop 6 := by
  rw [Command.lookup?_eq, lowercase_of_isAssertion h, Option.map_eq_some_iff] at hb
  obtain ⟨e, hfind, rfl⟩ := hb
  have hmem : e ∈ Command.spelled := List.mem_of_find?_eq_some hfind
  have hname : e.1 =
      "assert".toList ++ lowerAfter (l.command.toList.take 6).reverse (l.command.toList.drop 6) := by
    have hfound := List.find?_some hfind
    exact of_decide_eq_true hfound
  refine ⟨e, hmem, rfl, ?_, ?_⟩
  · rw [hname, List.isPrefixOf_iff_prefix]
    exact List.prefix_append _ _
  · intro before
    have hrest : ∀ c ∈ lowerAfter (l.command.toList.take 6).reverse (l.command.toList.drop 6),
        IsAscii c := by
      intro c hc
      exact Command.spelled_ascii e hmem c (hname ▸ List.mem_append_right _ hc)
    rw [lowerAfter_before hrest, hname]
    rfl

theorem not_polls {l : Line} (h : l.isAssertion = true) {b : Behaviour}
    (hb : Command.lookup? l.command = some b) : b.polls = false := by
  obtain ⟨e, hmem, rfl, hpre, _⟩ := spelled_of_isAssertion h hb
  exact (Command.spelled_assertions e hmem hpre).1

theorem lookup?_verifying {l : Line} (h : l.isAssertion = true) {b : Behaviour}
    (hb : Command.lookup? l.command = some b) : Command.lookup? l.verifying.command = some b := by
  obtain ⟨e, hmem, rfl, hpre, hsuffix⟩ := spelled_of_isAssertion h hb
  have hlower : (lowercase l.verifying.command).toList = "verify".toList ++ e.1.drop 6 := by
    have hascii : ∀ c ∈ "verify".toList, IsAscii c := isAscii_of_all (by decide)
    have hsame : "verify".toList.map Char.toLower = "verify".toList := by decide
    have hcommand : l.verifying.command.toList = "verify".toList ++ l.command.toList.drop 6 :=
      String.toList_append.trans (congrArg ("verify".toList ++ ·) String.toList_ofList)
    rw [lowercase, String.toList_ofList, hcommand, lowerAfter_ascii hascii, hsuffix, hsame]
  rw [Command.lookup?_eq, hlower]
  exact (Command.spelled_assertions e hmem hpre).2

end Line

end Selenese
