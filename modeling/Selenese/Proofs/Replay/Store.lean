import Selenese.Proofs.Command.Store
import Selenese.Proofs.Replay.Noted

/-!
# Selenese.Proofs.Replay.Store

What a line leaves of a replay as it was.

* `Replay.Ends.kept`: a line changes nothing but the session, the report, the variables and the verification
  errors.
* `Replay.Ends.store_eq` and `Replay.Ends.stored`: the variables change only by a line that stores, and only
  where it ends well and notes nothing.
* `Replay.note?_of_error`: a line that ends in a fault notes nothing.
* `Replay.executeLine_changes` puts these together.
-/

namespace Selenese.Replay

/-- The replays may differ in what a line may change. -/
structure Kept (x y : Replay) : Prop where
  baseUrl : y.baseUrl = x.baseUrl
  lastError : y.lastError = x.lastError
  phase : y.phase = x.phase
  options : y.options = x.options
  test : y.test = x.test

variable {l : Line} {x : Replay} {out : EStateM.Result Fault Replay Unit}

theorem kept_withContext {b : Behaviour} {r : EStateM.Result Failure Context Unit}
    (hx : b.execute x.options l x.context = r) : Kept x (x.withContext (stateAfter r)) := by
  subst hx
  have hmoves := (b.execute_within Session.logGrows x.options l).related x.context
  exact ⟨hmoves.baseUrl, rfl, rfl, rfl, rfl⟩

theorem Ends.kept (h : Ends l x out) : Kept x (stateAfter out) := by
  cases h with
  | unknown => exact ⟨rfl, rfl, rfl, rfl, rfl⟩
  | done _ hx => exact kept_withContext hx
  | passed _ hx | soft _ hx | fatal _ hx | broken _ hx =>
    have hkept := kept_withContext hx
    exact ⟨hkept.baseUrl, rfl, rfl, rfl, rfl⟩

/-! ## Variables -/

/-- A line that does not store, or does not end well, or notes something. -/
theorem Ends.store_eq (h : Ends l x out)
    (hnot : ¬ (Command.IsOneOf Command.storing l.command ∧ errorOf? out = none ∧ note? l x = none)) :
    (stateAfter out).store = x.store := by
  have hlooks {b : Behaviour} {c : Context} (hb : Command.lookup? l.command = some b)
      (hx : b.execute x.options l x.context = .ok () c) (hcommand : ¬ Command.IsOneOf Command.storing l.command) :
      c.store = x.store := by
    have hstores : b.stores = false := by
      cases hstores : b.stores with
      | false => rfl
      | true => exact absurd (Command.isOneOf_of_lookup? Command.table_storing hb hstores) hcommand
    exact ((b.execute_within Session.logGrows x.options l).ok hx).store hstores
  cases h with
  | unknown => rfl
  | done hb hx ha | passed hb hx ha =>
    have hnote : note? l x = none := by simp [note?, failure?, hb, hx, errorOf?]
    exact hlooks hb hx fun hcommand => hnot ⟨hcommand, rfl, hnote⟩
  | soft _ hx | fatal _ hx | broken _ hx => exact Behaviour.store_of_error hx

theorem Ends.stored (h : Ends l x out) (hcommand : Command.IsOneOf Command.storing l.command)
    (hok : errorOf? out = none) (hnote : note? l x = none) :
    ∃ value, Stored l x.context value ∧ (stateAfter out).store = x.store.assign l.value value := by
  cases h with
  | unknown | fatal | broken => cases hok
  | done hb hx | passed hb hx => exact Behaviour.stored_of_ok hb (Command.stores_of_isOneOf hb hcommand) hx
  | soft hb hx hs ha => simp [note?, failure?, hb, hx, hs, ha, errorOf?] at hnote

/-! ## Verification errors -/

theorem Ends.note?_of_error (h : Ends l x out) (herror : errorOf? out ≠ none) : note? l x = none := by
  cases h with
  | unknown hb => simp [note?, failure?, hb]
  | done | passed | soft => exact absurd rfl herror
  | fatal _ _ _ ha => simp [note?, ha]
  | broken hb hx hs => simp [note?, failure?, hb, hx, hs, errorOf?]

theorem note?_of_isAssertion (ha : l.isAssertion = true) : note? l x = none := by
  simp [note?, ha]

theorem Ends.note?_eq_none (h : Ends l x out) :
    note? l x = none ↔ (stateAfter out).verificationErrors = x.verificationErrors := by
  rw [h.verificationErrors]
  cases note? l x <;> simp

/-- **A line changes only what its command stores.** Whatever the replay and the line:

1. the base URL, the last error, the phase, the options and the test stay as they were;
2. a storing command, in any letter case, that ends well and notes nothing writes one slot, the one that
   the value of the line names, with what it stores, which may be no value; every other line leaves the
   variables as they were;
3. the verification errors stay or become one more, at the end; they stay where the line ends in a fault
   and where it is an assertion. -/
theorem executeLine_changes (l : Line) (x : Replay) :
    let out := executeLine l x
    let y := stateAfter out
    let stores := Command.IsOneOf Command.storing l.command ∧ errorOf? out = none ∧
      y.verificationErrors = x.verificationErrors
    Kept x y ∧
      (stores → ∃ value, Stored l x.context value ∧ ∀ key, y.store.slot? key =
        if key = Text.lowercase l.value then some value else x.store.slot? key) ∧
      (¬ stores → y.store = x.store) ∧
      (y.verificationErrors = x.verificationErrors ∨ ∃ m, y.verificationErrors = x.verificationErrors ++ [m]) ∧
      (errorOf? out ≠ none ∨ l.isAssertion = true → y.verificationErrors = x.verificationErrors) := by
  intro out y stores
  have hends : Ends l x out := executeLine_ends l x
  refine ⟨hends.kept, ?_, ?_, ?_, ?_⟩
  · rintro ⟨hcommand, hok, hnote⟩
    obtain ⟨value, hvalue, hstore⟩ := hends.stored hcommand hok (hends.note?_eq_none.2 hnote)
    exact ⟨value, hvalue, fun key => (congrArg (·.slot? key) hstore).trans (Variables.slot?_assign _ _ _ key)⟩
  · intro hnot
    exact hends.store_eq fun ⟨hcommand, hok, hnote⟩ => hnot ⟨hcommand, hok, hends.note?_eq_none.1 hnote⟩
  · have herrors : y.verificationErrors = _ := hends.verificationErrors
    rw [herrors]
    cases note? l x with
    | none => exact .inl (List.append_nil _)
    | some m => exact .inr ⟨m, rfl⟩
  · rintro (herror | ha)
    · exact hends.note?_eq_none.1 (hends.note?_of_error herror)
    · exact hends.note?_eq_none.1 (note?_of_isAssertion ha)

/-- A script that returns nothing is stored under a name in capital letters. -/
theorem executeLine_changes_storeEval :
    let x := { ready ⟨"shop", "en", "home"⟩ .standard (Session.empty.setScript "confirm()" none) none with
      store := ⟨[("name", some "Ann"), ("other", some "x")]⟩ }
    let l : Line := ⟨"StoreEval", "confirm()", "NAME"⟩
    Command.IsOneOf Command.storing l.command ∧ errorOf? (executeLine l x) = none ∧
      (stateAfter (executeLine l x)).verificationErrors = x.verificationErrors ∧
      (∃ value, Stored l x.context value ∧
        (stateAfter (executeLine l x)).store.slot? "name" = some value) ∧
      (stateAfter (executeLine l x)).store.slot? "other" = some (some "x") := by
  intro x l
  have hlower : Text.lowercase l.command = Text.lowercase "storeEval" := by decide +kernel
  have hcommand : Command.IsOneOf Command.storing l.command := ⟨"storeEval", by decide, hlower⟩
  have hlookup : Command.lookup? l.command = some .storeEval :=
    Command.lookup?_of_isOneOf (by decide +kernel) ⟨"storeEval", List.mem_singleton_self _, hlower⟩
  have hok : errorOf? (executeLine l x) = none := by
    rw [executeLine, hlookup]
    decide +kernel
  have herrors : (stateAfter (executeLine l x)).verificationErrors = x.verificationErrors := by
    rw [executeLine, hlookup]
    decide +kernel
  have hname : Text.lowercase l.value = "name" := by decide +kernel
  obtain ⟨value, hvalue, hslots⟩ := (executeLine_changes l x).2.1 ⟨hcommand, hok, herrors⟩
  have hslot := hslots "name"
  have hother := hslots "other"
  rw [hname, if_pos rfl] at hslot
  rw [hname, if_neg (by decide)] at hother
  have hbefore : x.store.slot? "other" = some (some "x") := by decide +kernel
  exact ⟨hcommand, hok, herrors, ⟨value, hvalue, hslot⟩, hother.trans hbefore⟩

end Selenese.Replay
