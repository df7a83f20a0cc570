import Mathlib.Data.List.Nodup
import Selenese.Proofs.Session.Place
import Selenese.Proofs.Session.TextSearch

/-!
# Selenese.Proofs.Session.Delayed

Elements that are not there yet, whatever else happens to their session.

* A `Session.Event` is anything that happens to a session: it is prepared, or a deed is done to it.
* `Session.Event.nodup_locators`: no two elements are ever registered under one locator.
* `Session.SameSight s t`: look-ups see the same elements in both sessions, and were counted alike.
  `Session.Event.sameSight`: every event keeps it but an edit and a look-up that is not forced to fail.
* `Session.lookUps l es s` counts the look-ups of `l` among some events that are not forced to fail.
  `Session.findCount_runAll` and `Session.awaited?_runAll`: so many more are counted in the end, and so
  many misses less are left of the element under `l`.
* `Session.findElement_delayed`: so it is found after its own look-ups, and until then a search for a
  text passes it over.
-/

namespace Selenese.Session

/-! ## What happens to a session -/

/-- What a session is told before it is used. -/
inductive Preparation where
  | title (title : String)
  | page (url title : String)
  | cookie (c : Cookie)
  | script (code : String) (result : Option String)
deriving DecidableEq, Repr

def Preparation.run (s : Session) : Preparation → Session
  | title t => { s with title := t }
  | page url t => { s with pages := (url, t) :: s.pages }
  | cookie c => { s with cookies := s.cookies ++ [c] }
  | script code result => s.setScript code result

inductive Event where
  | preparation (p : Preparation)
  | deed (d : Deed)
deriving DecidableEq, Repr

namespace Event

def run (s : Session) : Event → Session
  | preparation p => p.run s
  | deed d => d.run s

def runAll (es : List Event) (s : Session) : Session := es.foldl run s

def edited? : Event → Option Locator
  | preparation _ => none
  | deed d => d.edited?

/-- The look-ups of a locator that an event makes and that are not forced to fail: one or none. -/
def lookUps (l : Locator) (s : Session) (a : Event) : Nat :=
  if a = deed (.findElement l) ∧ s.failures.lookup .findElement = none then 1 else 0

end Event

def lookUps (l : Locator) : List Event → Session → Nat
  | [], _ => 0
  | a :: rest, s => a.lookUps l s + lookUps l rest (a.run s)

/-! ## Locators -/

theorem Deed.nodup_move {ls : List Locator} (h : ls.Nodup) (d : Deed) : (d.move ls).Nodup := by
  cases d with
  | add l e misses =>
    refine (h.filter _).append (List.nodup_singleton l) ?_
    simp [List.disjoint_singleton]
  | remove l => exact h.filter _
  | _ => exact h

theorem Event.nodup_locators {s : Session} (h : s.locators.Nodup) (a : Event) : (a.run s).locators.Nodup := by
  cases a with
  | preparation p => cases p <;> exact h
  | deed d => exact d.locators_run s ▸ d.nodup_move h

theorem nodup_locators_runAll {s : Session} (h : s.locators.Nodup) (es : List Event) :
    (Event.runAll es s).locators.Nodup := by
  induction es generalizing s with
  | nil => exact h
  | cons a rest ih => exact ih (a.nodup_locators h)

/-! ## What look-ups see -/

/-- What look-ups see of an element: its locator, the misses that are left, and its text. -/
def sight (r : Registered) : Locator × Nat × String := (r.locator, r.misses, r.element.text)

structure SameSight (s t : Session) : Prop where
  sights : t.elements.map sight = s.elements.map sight
  finds : t.finds = s.finds

theorem sameSight_stepwise : Stepwise SameSight where
  refl _ := ⟨rfl, rfl⟩
  trans h h' := ⟨h'.sights.trans h.sights, h'.finds.trans h.finds⟩

theorem record_sameSight (o : Operation) (detail : String) : Within SameSight anyError (record o detail) := by
  intro s
  rw [record_eq]
  cases s.failures.lookup o with
  | none => exact ⟨rfl, rfl⟩
  | some e => exact ⟨⟨rfl, rfl⟩, trivial⟩

theorem sights_put {s : Session} {i : Nat} {r : Registered} (hr : s.elements[i]? = some r) {e : Element}
    (he : e.text = r.element.text) : (s.put i e).elements.map sight = s.elements.map sight := by
  refine List.ext_getElem? fun j => ?_
  rw [put, List.getElem?_map, List.getElem?_map]
  by_cases hj : i = j
  · subst hj
    simp [hr, sight, he]
  · rw [List.getElem?_modify_ne _ _ hj]

/-- No use of an element changes its text. -/
theorem Use.sameSight_effect {s : Session} {i : Nat} {r : Registered} (hr : s.elements[i]? = some r) (u : Use) :
    SameSight s (stateAfter (u.effect i r.element s)) := by
  cases u with
  | tagName | text | attributeOf name | isDisplayed => exact ⟨rfl, rfl⟩
  | click | clear | sendKeys keys => exact ⟨sights_put hr rfl, rfl⟩
  | selectOption choice =>
    rw [effect]
    cases hselect : r.element.select? choice with
    | none => exact ⟨rfl, rfl⟩
    | some e =>
      refine ⟨sights_put hr ?_, rfl⟩
      obtain ⟨i, -, hrest⟩ := Option.bind_eq_some_iff.1 hselect
      obtain ⟨o, -, ho⟩ := Option.bind_eq_some_iff.1 hrest
      cases ho
      rfl

theorem Use.sameSight_call (u : Use) (h : Handle) (s : Session) : SameSight s (stateAfter (u.call h s)) := by
  rw [u.call_eq, atReferent]
  cases s.failures.lookup u.operation with
  | some e => exact ⟨rfl, rfl⟩
  | none =>
    cases hp : s.referent? h with
    | none => exact ⟨rfl, rfl⟩
    | some p =>
      obtain ⟨i, -, hplace⟩ := Option.bind_eq_some_iff.1 hp
      obtain ⟨r, hr, rfl⟩ := Option.map_eq_some_iff.1 hplace
      have heffect := u.sameSight_effect (s := s.logged u.operation (u.detail h)) hr
      exact ⟨heffect.sights, heffect.finds⟩

theorem recorded_sameSight {α : Type} {o : Operation} {detail : String} {next : Call α}
    (h : Within SameSight anyError next) (s : Session) :
    SameSight s (stateAfter ((do record o detail; next : Call α) s)) :=
  (Within.bind sameSight_stepwise (record_sameSight o detail) fun _ => h).related s

theorem Deed.sameSight {d : Deed} {s : Session} (hedit : d.edited? = none)
    (hfind : ∀ l, d = .findElement l → s.failures.lookup .findElement ≠ none) : SameSight s (d.run s) := by
  have hsame := sameSight_stepwise
  cases d with
  | navigate url => exact recorded_sameSight (.modify fun _ => by exact ⟨rfl, rfl⟩) s
  | readTitle | currentUrl | cookieNamed name =>
    exact recorded_sameSight (.bind hsame (.get hsame) fun _ => .pure hsame _) s
  | findElement l =>
    obtain ⟨e, he⟩ := Option.ne_none_iff_exists'.1 (hfind l rfl)
    show SameSight s (stateAfter (Session.findElement l s))
    rw [findElement_forced he]
    exact ⟨rfl, rfl⟩
  | use h u => exact u.sameSight_call h s
  | executeScript code =>
    refine recorded_sameSight (.bind hsame (.get hsame) fun s => ?_) s
    cases s.scripts with
    | none => exact .throw hsame trivial
    | some results => exact .pure hsame _
  | deleteCookie c => exact recorded_sameSight (.modify fun _ => by exact ⟨rfl, rfl⟩) s
  | add l e misses | remove l => cases hedit
  | failOn o e => exact ⟨rfl, rfl⟩

theorem Event.sameSight {a : Event} {s : Session} (hedit : a.edited? = none)
    (hfind : ∀ l, a = .deed (.findElement l) → s.failures.lookup .findElement ≠ none) :
    SameSight s (a.run s) := by
  cases a with
  | preparation p => cases p <;> exact ⟨rfl, rfl⟩
  | deed d => exact Deed.sameSight hedit fun l hl => hfind l (congrArg Event.deed hl)

/-! ## Counting look-ups -/

theorem Event.run_findElement {s : Session} (h : s.failures.lookup .findElement = none) (l : Locator) :
    (deed (.findElement l)).run s = s.afterFind l := by
  show stateAfter (Session.findElement l s) = _
  rw [findElement_eq h]
  cases (locate l s.elements).1 <;> rfl

theorem lookup_countFind_ne {l l' : Locator} (hl : l' ≠ l) (finds : List (Locator × Nat)) :
    (countFind l finds).lookup l' = finds.lookup l' := by
  have hne : (l' == l) = false := beq_false_of_ne hl
  induction finds with
  | nil => simp [countFind, List.lookup_cons, hne]
  | cons f rest ih =>
    obtain ⟨l'', n⟩ := f
    rw [countFind]
    by_cases hf : l'' = l
    · subst hf
      simp [List.lookup_cons, hne]
    · simp [hf, List.lookup_cons, ih]

theorem findCount_afterFind (s : Session) (l l' : Locator) :
    (s.afterFind l').findCount l = s.findCount l + if l' = l then 1 else 0 := by
  show ((countFind l' s.finds).lookup l).getD 0 = _
  by_cases hl : l' = l
  · rw [hl, lookup_countFind, if_pos rfl]
    rfl
  · rw [lookup_countFind_ne (Ne.symm hl), if_neg hl]
    rfl

/-- What an event is to look-ups: one that is not forced to fail, an edit, or nothing that they see. -/
theorem Event.findElement_or_edited_or_sameSight (a : Event) (s : Session) :
    (∃ l, a = deed (.findElement l) ∧ s.failures.lookup .findElement = none) ∨
      ((∃ l, a.edited? = some l) ∨ SameSight s (a.run s)) ∧ ∀ l, a.lookUps l s = 0 := by
  by_cases hfree : ∃ l, a = deed (.findElement l) ∧ s.failures.lookup .findElement = none
  · exact .inl hfree
  · refine .inr ⟨?_, fun l => if_neg fun h => hfree ⟨l, h⟩⟩
    cases hedit : a.edited? with
    | some l => exact .inl ⟨l, rfl⟩
    | none => exact .inr (sameSight hedit fun l hl hs => hfree ⟨l, hl, hs⟩)

theorem Event.lookUps_findElement {s : Session} (h : s.failures.lookup .findElement = none) (l l' : Locator) :
    (deed (.findElement l')).lookUps l s = if l' = l then 1 else 0 := by
  simp [lookUps, h]

theorem Event.findCount_run (a : Event) (l : Locator) (s : Session) :
    (a.run s).findCount l = s.findCount l + a.lookUps l s := by
  rcases a.findElement_or_edited_or_sameSight s with ⟨l', rfl, hfree⟩ | ⟨⟨l', hedit⟩ | hsame, hnone⟩
  · rw [run_findElement hfree, findCount_afterFind, lookUps_findElement hfree]
  · rw [hnone]
    rcases a with p | d
    · cases hedit
    · cases d with
      | add l e misses | remove l => rfl
      | _ => cases hedit
  · rw [hnone]
    exact congrArg (fun finds => (finds.lookup l).getD 0) hsame.finds

theorem findCount_runAll (l : Locator) (es : List Event) (s : Session) :
    (Event.runAll es s).findCount l = s.findCount l + lookUps l es s := by
  induction es generalizing s with
  | nil => rfl
  | cons a rest ih =>
    show (Event.runAll rest (a.run s)).findCount l = _
    rw [ih, a.findCount_run, lookUps, Nat.add_assoc]

/-! ## Misses that are left -/

/-- The misses that are left of the element under a locator, and its text. -/
def awaited? (s : Session) (l : Locator) : Option (Nat × String) :=
  (s.elements.find? fun r => r.locator = l).map fun r => (r.misses, r.element.text)

theorem SameSight.awaited? {s t : Session} (h : SameSight s t) (l : Locator) : t.awaited? l = s.awaited? l := by
  have hsights (s : Session) :
      s.awaited? l = ((s.elements.map sight).find? fun v => v.1 = l).map Prod.snd := by
    rw [List.find?_map, Option.map_map]
    rfl
  rw [hsights, hsights, h.sights]

/-- A look-up leaves one miss less of the element under its locator, and all else as it was. -/
theorem find?_lookup (l l' : Locator) (elements : List Registered) :
    ((lookup l' elements).2.find? fun r => r.locator = l) =
      (elements.find? fun r => r.locator = l).map fun r =>
        { r with misses := r.misses - if l' = l then 1 else 0 } := by
  induction elements with
  | nil => rfl
  | cons r rest ih =>
    obtain ⟨l'', e, misses⟩ := r
    rw [lookup]
    by_cases hr : l'' = l'
    · subst hr
      by_cases hzero : misses = 0
      · by_cases hl : l'' = l <;> simp [hl, hzero]
      · by_cases hl : l'' = l <;> simp [hl, hzero]
    · by_cases hl : l'' = l
      · subst hl
        simp [hr, Ne.symm hr]
      · simpa [hr, hl] using ih

theorem awaited?_afterFind {l : Locator} (hl : l.probedText? = none) (l' : Locator) (s : Session) :
    (s.afterFind l').awaited? l = (s.awaited? l).map fun w => (w.1 - if l' = l then 1 else 0, w.2) := by
  show ((locate l' s.elements).2.find? fun r => r.locator = l).map _ = _
  cases hprobe : l'.probedText? with
  | none =>
    rw [locate_eq_lookup hprobe, find?_lookup, awaited?, Option.map_map, Option.map_map]
    rfl
  | some t =>
    have hne : ¬ l' = l := by
      rintro rfl
      rw [hl] at hprobe
      cases hprobe
    rw [locate, hprobe, if_neg hne]
    exact Option.map_id'.symm

theorem awaited?_remove {l l' : Locator} (h : l' ≠ l) (s : Session) : (s.remove l').awaited? l = s.awaited? l := by
  have hfind : ((s.remove l').elements.find? fun r => r.locator = l) = s.elements.find? fun r => r.locator = l := by
    rw [remove, List.find?_filter]
    refine congrArg (fun p => List.find? p s.elements) (funext fun r => ?_)
    by_cases hr : r.locator = l
    · simp [hr, Ne.symm h]
    · simp [hr]
  rw [awaited?, hfind, awaited?]

theorem awaited?_add_ne {l l' : Locator} (h : l' ≠ l) (e : Element) (misses : Nat) (s : Session) :
    (s.add l' e misses).awaited? l = s.awaited? l := by
  refine Eq.trans ?_ (awaited?_remove h s)
  rw [awaited?, add, List.find?_append, List.find?_singleton, if_neg (by simpa using h), Option.or_none]
  rfl

theorem awaited?_add (l : Locator) (e : Element) (misses : Nat) (s : Session) :
    (s.add l e misses).awaited? l = some (misses, e.text) := by
  have hnone : ((s.remove l).elements.find? fun r => r.locator = l) = none := by
    simp [remove, List.find?_filter]
  rw [awaited?, add, List.find?_append, hnone, Option.none_or, List.find?_singleton, if_pos (by simp)]
  rfl

theorem Event.awaited?_run {l : Locator} (hl : l.probedText? = none) {a : Event} (ha : a.edited? ≠ some l)
    (s : Session) : (a.run s).awaited? l = (s.awaited? l).map fun w => (w.1 - a.lookUps l s, w.2) := by
  have hkept : ((s.awaited? l).map fun w => (w.1 - 0, w.2)) = s.awaited? l := Option.map_id'
  rcases a.findElement_or_edited_or_sameSight s with ⟨l', rfl, hfree⟩ | ⟨⟨l', hedit⟩ | hsame, hnone⟩
  · rw [run_findElement hfree, awaited?_afterFind hl, lookUps_findElement hfree]
  · have hne : l' ≠ l := fun h => ha (h ▸ hedit)
    rw [hnone, hkept]
    rcases a with p | d
    · cases hedit
    · cases d with
      | add l'' e misses =>
        cases hedit
        exact awaited?_add_ne hne e misses s
      | remove l'' =>
        cases hedit
        exact awaited?_remove hne s
      | _ => cases hedit
  · rw [hnone, hkept, hsame.awaited?]

theorem awaited?_runAll {l : Locator} (hl : l.probedText? = none) {es : List Event}
    (hes : ∀ a ∈ es, a.edited? ≠ some l) (s : Session) :
    (Event.runAll es s).awaited? l = (s.awaited? l).map fun w => (w.1 - lookUps l es s, w.2) := by
  induction es generalizing s with
  | nil => exact Option.map_id'.symm
  | cons a rest ih =>
    show (Event.runAll rest (a.run s)).awaited? l = _
    rw [ih (fun a ha => hes a (List.mem_cons_of_mem _ ha)), Event.awaited?_run hl (hes a List.mem_cons_self),
      Option.map_map]
    simp only [Function.comp_def, lookUps, Nat.sub_sub]

/-! ## Elements that are not there yet -/

theorem exists_place {l : Locator} {elements : List Registered} {r : Registered}
    (h : (elements.find? fun r => r.locator = l) = some r) :
    ∃ i, elements[i]? = some r ∧ r.locator = l ∧
      (lookup l elements).1 = if r.misses = 0 then some i else none := by
  induction elements with
  | nil => cases h
  | cons r' rest ih =>
    rw [lookup]
    by_cases hr : r'.locator = l
    · obtain rfl : r' = r := by simpa [hr] using h
      refine ⟨0, rfl, hr, ?_⟩
      by_cases hzero : r'.misses = 0 <;> simp [hr, hzero]
    · obtain ⟨i, hi, hl, hlookup⟩ := ih (by simpa [hr] using h)
      refine ⟨i + 1, hi, hl, ?_⟩
      by_cases hzero : r.misses = 0 <;> simp [hr, hlookup, hzero]

/-- A probe for a text locates what the probe that is written for the text does. -/
theorem locate_of_probedText? {p : Locator} {t : String} (hp : p.probedText? = some t) (elements : List Registered) :
    locate p elements = locate (.containingText t) elements := by
  rw [locate, hp, locate_containingText]

/-- A search for a text, whatever probe it is made by, finds the first element that shows it. -/
theorem findElement_probe {p : Locator} {t : String} (hp : p.probedText? = some t) {s : Session}
    (hs : s.failures.lookup .findElement = none) :
    (∀ i, FirstShowing t s.elements i → findElement p s = .ok (handleAt i) (s.afterFind p)) ∧
      ((∀ r ∈ s.elements, ¬ r.Shows t) → findElement p s = .error (.ofLocator p) (s.afterFind p)) ∧
      (s.afterFind p).elements = s.elements := by
  refine ⟨fun i hi => ?_, fun hnone => ?_, ?_⟩
  · rw [findElement_eq hs, locate_of_probedText? hp, hi.locate_eq]
  · rw [findElement_eq hs, locate_of_probedText? hp, locate_eq_none hnone]
  · show (locate p s.elements).2 = s.elements
    rw [locate_of_probedText? hp, locate_containingText]

/-- **A delayed element appears after its own look-ups, and after nothing else.** In a session that was
reached in any way, no two elements stand under one locator. Where an element is registered under `l`
with `m` misses and then anything happens but an edit of `l`, with `n` look-ups of `l` in it that were
not forced to fail, then

1. so many look-ups of `l` more are counted, and of every other locator as many as were made of it;
2. the element still stands under `l` with its text, and `m - n` misses are left of it;
3. a look-up of `l` that is not forced to fail misses the element if `n < m`, and finds it otherwise;
4. a search for a text finds the first element that shows it and takes no miss from any; and the
   element shows what is in its text if `m ≤ n`, and nothing before. -/
theorem findElement_delayed (before : List Event) {l : Locator} (hl : l.probedText? = none) (e : Element) (m : Nat)
    {between : List Event} (hbetween : ∀ a ∈ between, a.edited? ≠ some l) :
    let s := Event.runAll before empty
    let t := Event.runAll between (s.add l e m)
    let n := lookUps l between (s.add l e m)
    s.locators.Nodup ∧ t.locators.Nodup ∧
      (∀ l', t.findCount l' = s.findCount l' + lookUps l' between (s.add l e m)) ∧
      ∃ i r, t.elements[i]? = some r ∧ r.locator = l ∧ r.misses = m - n ∧ r.element.text = e.text ∧
        (t.failures.lookup .findElement = none →
          findElement l t =
            if n < m then .error (.ofLocator l) (t.afterFind l) else .ok (handleAt i) (t.afterFind l)) ∧
        ∀ p text, p.probedText? = some text →
          (r.Shows text ↔ m ≤ n ∧ text.toList <:+: e.text.toList) ∧
          (t.failures.lookup .findElement = none →
            (∀ j, FirstShowing text t.elements j → findElement p t = .ok (handleAt j) (t.afterFind p)) ∧
            ((∀ r ∈ t.elements, ¬ r.Shows text) → findElement p t = .error (.ofLocator p) (t.afterFind p)) ∧
            (t.afterFind p).elements = t.elements) := by
  intro s t n
  have hs : s.locators.Nodup := nodup_locators_runAll (s := empty) List.nodup_nil before
  have hadd : (s.add l e m).locators.Nodup := Event.nodup_locators hs (.deed (.add l e m))
  have hawaited : t.awaited? l = some (m - n, e.text) := by
    rw [awaited?_runAll hl hbetween, awaited?_add]
    rfl
  obtain ⟨r, hr, hsight⟩ := Option.map_eq_some_iff.1 hawaited
  obtain ⟨hmisses, htext⟩ := Prod.ext_iff.1 hsight
  obtain ⟨i, hi, hlocator, hlookup⟩ := exists_place hr
  dsimp only at hmisses htext
  have hcounts : ∀ l', t.findCount l' = s.findCount l' + lookUps l' between (s.add l e m) := fun l' =>
    findCount_runAll l' between (s.add l e m)
  have hfound (hfree : t.failures.lookup .findElement = none) : findElement l t =
      if n < m then .error (.ofLocator l) (t.afterFind l) else .ok (handleAt i) (t.afterFind l) := by
    rw [findElement_eq hfree, locate_eq_lookup hl, hlookup, hmisses]
    by_cases hn : n < m
    · rw [if_pos hn, if_neg (by omega)]
    · rw [if_neg hn, if_pos (by omega)]
  have hshows (text : String) : r.Shows text ↔ m ≤ n ∧ text.toList <:+: e.text.toList := by
    rw [Registered.Shows, hmisses, htext]
    exact and_congr_left fun _ => by omega
  exact ⟨hs, nodup_locators_runAll hadd between, hcounts, i, r, hi, hlocator, hmisses, htext, hfound,
    fun p text hp => ⟨hshows text, findElement_probe hp⟩⟩

/-- An element that two look-ups miss. After the first, its text is searched for in vain, keys are sent to it
and another element is added and found; after the second it is found. -/
theorem findElement_delayed_third :
    let l := Locator.id "late"
    let s := empty.add l { Element.ofTag "p" with text := "too late" } 2
    let between : List Event := [.deed (.findElement l), .deed (.add (.id "other") (.ofTag "p") 0),
      .deed (.findElement (.containingText "late")), .deed (.use (handleAt 0) (.sendKeys "x")),
      .deed (.findElement (.id "other"))]
    let t := Event.runAll between s
    let u := Event.runAll (between ++ [.deed (.findElement l)]) s
    (∀ a ∈ between, a.edited? ≠ some l) ∧
      findElement l t = .error (.ofLocator l) (t.afterFind l) ∧ u.findCount l = 2 ∧
      ∃ h, findElement l u = .ok h (u.afterFind l) := by
  intro l s between t u
  have hbetween : ∀ a ∈ between, a.edited? ≠ some l := by decide
  have hall : ∀ a ∈ between ++ [.deed (.findElement l)], a.edited? ≠ some l := by decide
  obtain ⟨-, -, -, j, -, -, -, -, -, hmissed, -⟩ :=
    findElement_delayed [] rfl { Element.ofTag "p" with text := "too late" } 2 hbetween
  obtain ⟨-, -, hcount, i, -, -, -, -, -, hfound, -⟩ :=
    findElement_delayed [] rfl { Element.ofTag "p" with text := "too late" } 2 hall
  have ht_free : t.failures.lookup .findElement = none := by decide +kernel
  have hu_free : u.failures.lookup .findElement = none := by decide +kernel
  have hone : lookUps l between s = 1 := by decide +kernel
  have htwo : lookUps l (between ++ [.deed (.findElement l)]) s = 2 := by decide +kernel
  have ht : findElement l t = if lookUps l between s < 2 then .error (.ofLocator l) (t.afterFind l)
      else .ok (handleAt j) (t.afterFind l) := hmissed ht_free
  have hu : findElement l u = if lookUps l (between ++ [.deed (.findElement l)]) s < 2 then
      .error (.ofLocator l) (u.afterFind l) else .ok (handleAt i) (u.afterFind l) := hfound hu_free
  have hfinds : u.findCount l = 0 + lookUps l (between ++ [.deed (.findElement l)]) s := hcount l
  rw [hone, if_pos (by decide)] at ht
  rw [htwo, if_neg (by decide)] at hu
  rw [htwo] at hfinds
  exact ⟨hbetween, ht, hfinds, _, hu⟩

end Selenese.Session
