import Mathlib.Data.List.Nodup
import Selenese.Proofs.Command.Table
import Selenese.Proofs.Text.LowerPrefix

/-!
# Selenese.Proofs.Command.Recorded

The names under which commands are recorded.

* `Command.RecordedAs command name b`: the one entry of the table whose name has the lower case of
  `command` is `name`, with the behaviour `b`. `Command.recordedAs_of_lookup?`: every known command
  has such a name.
* `Line.isAssertion_iff`: a line begins with `assert`, in ASCII letters of either case, exactly if
  its full lower case does. `Line.isAssertion_iff_asserts`: so it is an assertion exactly if its
  recorded name begins with `assert`.
-/

namespace Selenese

open Text

namespace Command

structure RecordedAs (command name : String) (b : Behaviour) : Prop where
  mem : (name, b) ∈ table
  sameLower : lowercase name = lowercase command
  unique : ∀ e ∈ table, lowercase e.1 = lowercase command → e = (name, b)

/-- The name is one of an assertion, as it is recorded. -/
def Asserts (name : String) : Prop := "assert".toList <+: name.toList

instance (name : String) : Decidable (Asserts name) := inferInstanceAs (Decidable (_ <+: _))

theorem lowercase_of_mem {e : String × Behaviour} (he : e ∈ table) :
    (lowercase e.1).toList = foldAscii e.1 := toList_lowercase_ascii (table_ascii e he)

theorem nodup_names : (table.map fun e => foldAscii e.1).Nodup := by
  decide +kernel

/-- No two names of the table have one lower case. -/
theorem eq_of_lowercase {e e' : String × Behaviour} (he : e ∈ table) (he' : e' ∈ table)
    (h : lowercase e.1 = lowercase e'.1) : e = e' := by
  have hfold : foldAscii e.1 = foldAscii e'.1 := by
    rw [← lowercase_of_mem he, ← lowercase_of_mem he', h]
  exact List.inj_on_of_nodup_map nodup_names he he' hfold

theorem recordedAs_of_lookup? {command : String} {b : Behaviour} (h : lookup? command = some b) :
    ∃ name, RecordedAs command name b := by
  rw [lookup?, Option.map_eq_some_iff] at h
  obtain ⟨⟨name, b⟩, hfind, rfl⟩ := h
  have hmem : (name, b) ∈ table := List.mem_of_find?_eq_some hfind
  have hsame : lowercase name = lowercase command := by
    have hfound := List.find?_some hfind
    exact of_decide_eq_true hfound
  exact ⟨name, hmem, hsame, fun e he hlower => eq_of_lowercase he hmem (hlower.trans hsame.symm)⟩

/-- The names of assertions are recorded with small letters at their beginning. -/
theorem asserts_iff_foldAscii : ∀ e ∈ table, Asserts e.1 ↔ "assert".toList <+: foldAscii e.1 := by
  decide +kernel

end Command

namespace Line

theorem isAssertion_iff (l : Line) :
    l.isAssertion = true ↔ "assert".toList <+: (lowercase l.command).toList := by
  constructor
  · intro h
    rw [lowercase_of_isAssertion h]
    exact List.prefix_append _ _
  · intro h
    have hall : ("assert".toList.all fun x => decide (Plain x)) = true := by decide +kernel
    have hplain (x : Char) (hx : x ∈ "assert".toList) : Plain x :=
      of_decide_eq_true (List.all_eq_true.1 hall x hx)
    have hlower : (lowercase l.command).toList = lowerAfter [] l.command.toList := String.toList_ofList
    rw [hlower] at h
    have hfirst : (l.command.toList.take 6).map Char.toLower = "assert".toList :=
      prefix_lowerAfter hplain h
    exact beq_iff_eq.2 hfirst

theorem isAssertion_iff_asserts {l : Line} {name : String} {b : Behaviour}
    (h : Command.RecordedAs l.command name b) : l.isAssertion = true ↔ Command.Asserts name := by
  rw [isAssertion_iff, ← h.sameLower, Command.lowercase_of_mem h.mem,
    Command.asserts_iff_foldAscii _ h.mem]

end Line

end Selenese
