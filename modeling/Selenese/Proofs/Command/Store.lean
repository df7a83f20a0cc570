import Selenese.Proofs.Command.Page
import Selenese.Proofs.Variables

/-!
# Selenese.Proofs.Command.Store

Commands that store.

* `Variables.assign v name value`: the slot of a name with a value, or without one.
* `Stored l x value`: what the line `l` stores in the context `x`, by its command.
* `Behaviour.store_of_error`: a command that fails leaves the variables as they were, as it stores last.
* `Behaviour.stored_of_ok`: one that stores and does not fail writes the slot that its line names.
-/

namespace Selenese

def Variables.assign (v : Variables) (name : String) : Option String → Variables
  | some value => v.set name value
  | none => v.unset name

theorem Variables.slot?_assign (v : Variables) (name : String) (value : Option String) (key : String) :
    (v.assign name value).slot? key = if key = Text.lowercase name then some value else v.slot? key := by
  cases value with
  | some value => exact v.slot?_set name value key
  | none => exact v.slot?_unset name key

open Selenese.Action Session

theorem Action.probe_ok {l : Locator} {s t : Session} {found : Option Handle} (hs : probe l s = .ok found t) :
    (∃ h, found = some h ∧ findElement l s = .ok h t) ∨
      ∃ e, found = none ∧ findElement l s = .error e t ∧ e.isNotFound = true := by
  unfold probe at hs
  cases hf : findElement l s with
  | ok h s' =>
    rw [hf] at hs
    cases hs
    exact .inl ⟨h, rfl, rfl⟩
  | error e s' =>
    rw [hf] at hs
    cases he : e.isNotFound with
    | false => simp [he] at hs
    | true =>
      simp only [he, if_true] at hs
      cases hs
      exact .inr ⟨e, rfl, rfl, he⟩

theorem Action.store_of_call_error {α : Type} {c : Session.Call α} {x y : Context} {f : Failure}
    (h : call c x = .error f y) : y.store = x.store := by
  obtain ⟨e, s, _, _, rfl⟩ := call_error h
  rfl

theorem Action.store_of_find_error {l : Line} {x y : Context} {f : Failure} (h : find l x = .error f y) :
    y.store = x.store := by
  rw [find_eq] at h
  exact store_of_call_error h

/-! ## What commands store -/

/-- The text of the element that the target locates, whether the target is on the page as a text, or what
the target returns as a script. -/
inductive Stored (l : Line) (x : Context) : Option String → Prop
  | text {i : Nat} {r : Registered} : Command.IsOneOf ["storeText"] l.command →
      (locate (.resolve (x.store.decode l.target)) x.session.elements).1 = some i →
      x.session.elements[i]? = some r → Stored l x (some r.element.text)
  | present {h : Handle} {s : Session} : Command.IsOneOf ["storeTextPresent"] l.command →
      findElement (.containingText (x.store.decode l.target)) x.session = .ok h s →
      Stored l x (some "true")
  | absent {e : SessionError} {s : Session} : Command.IsOneOf ["storeTextPresent"] l.command →
      findElement (.containingText (x.store.decode l.target)) x.session = .error e s →
      e.isNotFound = true → Stored l x (some "false")
  | script {results : List (String × Option String)} : Command.IsOneOf ["storeEval"] l.command →
      x.session.scripts = some results →
      Stored l x (results.lookup (x.store.expand l.target)).join

namespace Behaviour

variable {options : Options} {l : Line} {x c : Context}

theorem storeText_ok (hx : storeText.execute options l x = .ok () c) :
    ∃ i r, (locate (.resolve (x.store.decode l.target)) x.session.elements).1 = some i ∧
      x.session.elements[i]? = some r ∧ c.store = x.store.assign l.value (some r.element.text) := by
  obtain ⟨h, x₁, hfind, hrest⟩ := bind_eq_ok.1 hx
  obtain ⟨t, x₂, htext, hset⟩ := bind_eq_ok.1 hrest
  rw [find_eq] at hfind
  obtain ⟨s, hs, rfl⟩ := call_ok hfind
  obtain ⟨u, hu, rfl⟩ := call_ok htext
  cases hset
  obtain ⟨i, r, hi, hget, rfl⟩ := text_of_found hs hu
  exact ⟨i, r, hi, hget, rfl⟩

theorem storeTextPresent_ok (hx : (checkTextPresent true).execute options l x = .ok () c) :
    (∃ h s, findElement (.containingText (x.store.decode l.target)) x.session = .ok h s ∧
      c.store = x.store.assign l.value (some "true")) ∨
    ∃ e s, findElement (.containingText (x.store.decode l.target)) x.session = .error e s ∧
      e.isNotFound = true ∧ c.store = x.store.assign l.value (some "false") := by
  obtain ⟨t, x₁, hdecode, hrest⟩ := bind_eq_ok.1 hx
  cases hdecode
  obtain ⟨found, x₂, hprobe, hset⟩ := bind_eq_ok.1 hrest
  obtain ⟨s, hs, rfl⟩ := call_ok hprobe
  cases hset
  obtain ⟨h, rfl, hfind⟩ | ⟨e, rfl, hfind, he⟩ := probe_ok hs
  · exact .inl ⟨h, s, hfind, rfl⟩
  · exact .inr ⟨e, s, hfind, he, rfl⟩

theorem storeEval_ok (hx : storeEval.execute options l x = .ok () c) :
    ∃ results, x.session.scripts = some results ∧
      c.store = x.store.assign l.value (results.lookup (x.store.expand l.target)).join := by
  obtain ⟨_, x₁, hget, hrest⟩ := bind_eq_ok.1 hx
  cases hget
  dsimp only at hrest
  split at hrest
  · cases hrest
  · obtain ⟨_, x₂, hget, hrun⟩ := bind_eq_ok.1 hrest
    cases hget
    obtain ⟨result, x₃, hcall, hset⟩ := bind_eq_ok.1 hrun
    obtain ⟨s, hs, rfl⟩ := call_ok hcall
    obtain ⟨results, hscripts, rfl⟩ := executeScript_ok hs
    refine ⟨results, hscripts, ?_⟩
    cases hresult : (results.lookup (x.store.expand l.target)).join with
    | some value =>
      rw [hresult] at hset
      cases hset
      rfl
    | none =>
      rw [hresult] at hset
      cases hset
      rfl

/-- What a command that stores has done before it fails is looking. -/
theorem store_of_error {b : Behaviour} {f : Failure} (hx : b.execute options l x = .error f c) :
    c.store = x.store := by
  cases hb : b.stores with
  | false => exact ((b.execute_within logGrows options l).error hx).1.store hb
  | true =>
    cases b with
    | storeText =>
      rcases bind_eq_error.1 hx with hfind | ⟨h, x₁, hfind, hrest⟩
      · exact store_of_find_error hfind
      · rcases bind_eq_error.1 hrest with htext | ⟨t, x₂, _, hset⟩
        · exact (store_of_call_error htext).trans (find_ok hfind).1
        · cases hset
    | checkTextPresent store =>
      cases hb
      rcases bind_eq_error.1 hx with hdecode | ⟨t, x₁, hdecode, hrest⟩
      · cases hdecode
      · cases hdecode
        rcases bind_eq_error.1 hrest with hprobe | ⟨found, x₂, _, hset⟩
        · exact store_of_call_error hprobe
        · cases hset
    | storeEval =>
      rcases bind_eq_error.1 hx with hget | ⟨_, x₁, hget, hrest⟩
      · cases hget
      · cases hget
        dsimp only at hrest
        split at hrest
        · cases hrest
          rfl
        · rcases bind_eq_error.1 hrest with hget | ⟨_, x₂, hget, hrun⟩
          · cases hget
          · cases hget
            rcases bind_eq_error.1 hrun with hcall | ⟨result, x₃, _, hset⟩
            · exact store_of_call_error hcall
            · cases result <;> cases hset
    | _ => cases hb

end Behaviour

namespace Command

def storing : List String := ["storeText", "storeTextPresent", "storeEval"]

theorem table_storing : ∀ e ∈ table, e.2.stores = true → e.1 ∈ storing := by
  decide +kernel

theorem spelled_storing : ∀ name ∈ storing, (name.toList.all fun c => decide (Text.IsAscii c)) = true ∧
    ((spelled.find? fun e => e.1 = Text.foldAscii name).map Prod.snd).any Behaviour.stores = true := by
  decide +kernel

theorem stores_of_isOneOf {command : String} {b : Behaviour} (hb : lookup? command = some b)
    (h : IsOneOf storing command) : b.stores = true := by
  obtain ⟨name, hname, hsame⟩ := h
  obtain ⟨hascii, hstores⟩ := spelled_storing name hname
  rw [← lookup?_ascii (Text.isAscii_of_all hascii), ← lookup?_congr hsame, hb] at hstores
  exact hstores

end Command

theorem Behaviour.stored_of_ok {options : Options} {l : Line} {x c : Context} {b : Behaviour}
    (hb : Command.lookup? l.command = some b) (hstores : b.stores = true)
    (hx : b.execute options l x = .ok () c) :
    ∃ value, Stored l x value ∧ c.store = x.store.assign l.value value := by
  have hname (names : List String) (hnames : ∀ e ∈ Command.table, (b == e.2) = true → e.1 ∈ names) :
      Command.IsOneOf names l.command := Command.isOneOf_of_lookup? hnames hb (beq_self_eq_true b)
  cases b with
  | storeText =>
    obtain ⟨i, r, hi, hget, hstore⟩ := storeText_ok hx
    exact ⟨_, .text (hname _ (by decide +kernel)) hi hget, hstore⟩
  | checkTextPresent store =>
    cases hstores
    have hcommand : Command.IsOneOf ["storeTextPresent"] l.command := hname _ (by decide +kernel)
    obtain ⟨h, s, hfind, hstore⟩ | ⟨e, s, hfind, he, hstore⟩ := storeTextPresent_ok hx
    · exact ⟨_, .present hcommand hfind, hstore⟩
    · exact ⟨_, .absent hcommand hfind he, hstore⟩
  | storeEval =>
    obtain ⟨results, hscripts, hstore⟩ := storeEval_ok hx
    exact ⟨_, .script (hname _ (by decide +kernel)) hscripts, hstore⟩
  | _ => cases hstores

end Selenese
