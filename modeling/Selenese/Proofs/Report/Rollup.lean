import Selenese.Proofs.Report.History
import Selenese.Proofs.Report.Scope

/-!
# Selenese.Proofs.Report.Rollup

What the scopes of a report show: the last write wins.

* `Passes d p`: the way to the test `d` goes through the scope at the path `p`. The root is on the
  way to every test.
* `Report.heading?_write`: an event marks the scopes that the way to its test goes through, creates
  those that are missing, and leaves the others alone.
* `Report.flagsAt_writeAll` and `Report.timedAt_writeAll`: after any entries, what a scope shows is
  what was told of the tests that the way through it leads to.
* `rollup_writeAll`: so every scope shows the last entry, and the last one that judged success.
-/

namespace Selenese.Report

/-! ## The way to a test -/

/-- The step to the scope on the way to a test that has some number of scopes above it. -/
def stepAt (d : TestId) (above : Nat) : Step :=
  ((path d).take above).getLastD ⟨.segment, d.segments.headD ""⟩

/-- The way to a test goes through the scope at a path. Kinds are compared, and names up to the case
of ASCII letters. -/
def Passes (d : TestId) (p : List Step) : Prop := p.map Step.key <+: (path d).map Step.key

instance (d : TestId) (p : List Step) : Decidable (Passes d p) :=
  inferInstanceAs (Decidable (_ <+: _))

theorem passes_root (d : TestId) : Passes d [] := List.nil_prefix

/-! ## Headings -/

def heading? (r : Report) (p : List Step) : Option Heading := r.root.bind (Scope.heading? p)

/-- Going down to a test, and acting on the headings of all scopes on the way. -/
theorem heading?_place {d : TestId} {steps : List (Step × (Scope → Scope))}
    (hsteps : steps.map Prod.fst = path d) (act : Heading → Heading)
    (hv : ∀ p ∈ steps, Scope.Visit p.2)
    (hact : ∀ p ∈ steps, ∀ s, (p.2 s).heading = act s.heading) {v : Scope → Scope}
    (hvisit : Scope.Visit v) (hv' : ∀ s, (v s).heading = act s.heading) (g : TestCase → TestCase)
    (r : Report) (p : List Step) :
    ((v (r.root.getD (rootOf d))).descend steps (Scope.alterCase d.fullPath g)).heading? p =
      if Passes d p then some (act ((r.heading? p).getD (.ofStep (stepAt d p.length))))
      else r.heading? p := by
  have hkeys : steps.map (·.1.key) = (path d).map Step.key := by rw [← hsteps, List.map_map]; rfl
  have h := Scope.heading?_descend (f := Scope.alterCase d.fullPath g) (fun _ => rfl) (fun _ => rfl)
    hv hact hvisit hv' ⟨.segment, d.segments.headD ""⟩ r.root p
  rw [hkeys, hsteps] at h
  exact h

theorem heading?_record (d : TestId) (update : Flags) (onCase : TestCase → TestCase)
    (onTally : Tally → Tally) (r : Report) (p : List Step) :
    (r.record d update onCase onTally).heading? p =
      if Passes d p then some (((r.heading? p).getD (.ofStep (stepAt d p.length))).touch update)
      else r.heading? p := by
  rw [heading?, root_record, Option.bind_some]
  refine heading?_place (map_fst_visits d update r) (Heading.touch update)
    (fun _ => visit_of_mem_visits) ?_ (.touch update _) (fun _ => rfl) _ r p
  intro q hq s
  obtain ⟨t, ht⟩ := touch_of_mem_visits hq
  rw [ht]; rfl

theorem heading?_addProperty (d : TestId) (name value : String) (r : Report) (p : List Step) :
    (r.addProperty d name value).heading? p =
      if Passes d p then some ((r.heading? p).getD (.ofStep (stepAt d p.length)))
      else r.heading? p := by
  rw [heading?, addProperty, Option.bind_some, Scope.alter]
  refine heading?_place (Scope.map_fst_map_id (path d)) id (v := id)
    (fun _ => Scope.visit_of_mem_map_id) ?_ .id (fun _ => rfl) _ r p
  intro q hq s
  obtain ⟨_, _, rfl⟩ := List.mem_map.1 hq
  rfl

namespace Event

/-- A heading after one more event. -/
def mark (e : Event) (h : Heading) : Heading := e.flags?.elim h h.touch

theorem heading?_write (e : Event) (d : TestId) (r : Report) (p : List Step) :
    (e.write d r).heading? p =
      if Passes d p ∧ e ≠ begun then
        some (e.mark ((r.heading? p).getD (.ofStep (stepAt d p.length))))
      else r.heading? p := by
  cases e with
  | begun =>
    rw [if_neg fun h => h.2 rfl]
    rfl
  | property name value => simp [write, heading?_addProperty, mark, flags?]
  | _ => simp [write, Report.passed, Report.failed, Report.exception, Report.ignored,
      Report.inconclusive, Report.invalid, heading?_record, mark, flags?]

end Event

/-! ## Flags and times -/

/-- The flags of the scope at a path; a scope that is not there has none. -/
def flagsAt (r : Report) (p : List Step) : Flags := (r.heading? p).elim .unset Heading.flags

def timedAt (r : Report) (p : List Step) : Bool := (r.heading? p).elim false Heading.timed

theorem flagsAt_write (e : Entry) (r : Report) (p : List Step) :
    (e.write r).flagsAt p =
      if Passes e.test p then e.event.flags?.elim (r.flagsAt p) (r.flagsAt p).merge
      else r.flagsAt p := by
  rw [flagsAt, Entry.write, e.event.heading?_write, flagsAt]
  have hclock : heading? { r with clock := e.clock } p = r.heading? p := rfl
  rw [hclock]
  by_cases hp : Passes e.test p
  · cases he : e.event <;> cases r.heading? p <;>
      simp [hp, Event.mark, Event.flags?, Heading.touch, Heading.ofStep]
  · simp [hp]

theorem timedAt_write (e : Entry) (r : Report) (p : List Step) :
    (e.write r).timedAt p =
      (r.timedAt p || (decide (Passes e.test p) && e.event.flags?.isSome)) := by
  rw [timedAt, Entry.write, e.event.heading?_write, timedAt]
  have hclock : heading? { r with clock := e.clock } p = r.heading? p := rfl
  rw [hclock]
  by_cases hp : Passes e.test p
  · cases he : e.event <;> cases r.heading? p <;>
      simp [hp, Event.mark, Event.flags?, Heading.touch, Heading.ofStep]
  · simp [hp]

/-- The entries of status on the ways through a scope. -/
def statusesAt (p : List Step) (es : List Entry) : List Entry :=
  es.filter fun e => Passes e.test p ∧ e.event.flags?.isSome

theorem flagsAt_writeAll (es : List Entry) (r : Report) (p : List Step) :
    (writeAll es r).flagsAt p =
      ((statusesAt p es).filterMap (·.event.flags?)).foldl Flags.merge (r.flagsAt p) := by
  induction es generalizing r with
  | nil => rfl
  | cons e rest ih =>
    show (writeAll rest (e.write r)).flagsAt p = _
    rw [ih, flagsAt_write]
    by_cases hp : Passes e.test p
    · cases he : e.event.flags? <;> simp [statusesAt, hp, he]
    · simp [statusesAt, hp]

theorem timedAt_writeAll (es : List Entry) (r : Report) (p : List Step) :
    (writeAll es r).timedAt p = (r.timedAt p || !(statusesAt p es).isEmpty) := by
  induction es generalizing r with
  | nil => simp [statusesAt, writeAll]
  | cons e rest ih =>
    show (writeAll rest (e.write r)).timedAt p = _
    rw [ih, timedAt_write]
    by_cases hp : Passes e.test p ∧ e.event.flags?.isSome
    · simp [statusesAt, hp]
    · have hskip : statusesAt p (e :: rest) = statusesAt p rest := by simp [statusesAt, hp]
      have hnone : (decide (Passes e.test p) && e.event.flags?.isSome) = false := by
        simpa using hp
      rw [hskip, hnone, Bool.or_false]

/-! ## The last write wins -/

namespace Flags

theorem executed_merge (old update : Flags) :
    (old.merge update).executed = update.executed.or old.executed := by
  cases h : update.executed <;> simp [merge, h]

theorem verdict_merge (old update : Flags) :
    (old.merge update).verdict = update.verdict.or old.verdict := by
  cases h : update.verdict <;> simp [merge, h]

theorem success_merge (old update : Flags) :
    (old.merge update).success = update.success.or old.success := by
  cases h : update.success <;> simp [merge, h]

end Flags

/-- A flag that every update overwrites where it sets it is what the last update that sets it made
of it. -/
theorem foldl_merge {α : Type} (flag : Flags → Option α)
    (h : ∀ old update, flag (old.merge update) = (flag update).or (flag old)) (us : List Flags)
    (f : Flags) :
    flag (us.foldl Flags.merge f) = (us.filterMap flag).getLast?.or (flag f) := by
  induction us generalizing f with
  | nil => rfl
  | cons u rest ih =>
    rw [List.foldl_cons, ih, h]
    cases hu : flag u with
    | none => simp [hu]
    | some a => cases hl : (rest.filterMap flag).getLast? <;> simp [hu, hl, List.getLast?_cons]

namespace Event

/-- Success is judged by passed and failed assertions and by marks as invalid. -/
def success? : Event → Option Bool
  | passed => some true
  | failed .. => some false
  | invalid => some false
  | _ => none

theorem success?_eq (e : Event) : e.flags?.bind Flags.success = e.success? := by
  cases e <;> rfl

theorem flags?_eq_none {e : Event} :
    e.flags? = none ↔ e = begun ∨ ∃ name value, e = property name value := by
  cases e <;> simp [flags?]

/-- Every event of status says whether a test ran, and with which verdict. -/
theorem isSome_of_flags? {e : Event} (h : e.flags?.isSome = true) :
    (e.flags?.bind Flags.executed).isSome = true ∧ (e.flags?.bind Flags.verdict).isSome = true := by
  cases e <;> first | exact ⟨rfl, rfl⟩ | cases h

end Event

theorem getLast?_filterMap {α β : Type} {l : List α} {a : α} (h : l.getLast? = some a)
    {f : α → Option β} (hf : (f a).isSome = true) : (l.filterMap f).getLast? = f a := by
  obtain ⟨init, rfl⟩ := List.getLast?_eq_some_iff.1 h
  obtain ⟨b, hb⟩ := Option.isSome_iff_exists.1 hf
  simp [hb]

/-- A flag that every event of status sets is that of the last entry. -/
theorem flag_last {α : Type} {flag : Flags → Option α}
    (h : ∀ old update, flag (old.merge update) = (flag update).or (flag old))
    {own : List Entry} {last : Entry} (hlast : own.getLast? = some last)
    (hset : (last.event.flags?.bind flag).isSome = true) (f : Flags) :
    flag ((own.filterMap (·.event.flags?)).foldl Flags.merge f) = last.event.flags?.bind flag := by
  have hown := getLast?_filterMap hlast (f := fun e => e.event.flags?.bind flag) hset
  rw [foldl_merge flag h, List.filterMap_filterMap, hown]
  obtain ⟨a, ha⟩ := Option.isSome_iff_exists.1 hset
  rw [ha]; rfl

/-! ## Where the scopes of a report stand -/

/-- Every event but a start goes down to a test. -/
theorem Event.root_write {e : Event} (he : e ≠ .begun) (d : TestId) (r : Report) :
    ∃ steps v g, (∀ p ∈ steps, Scope.Visit p.2) ∧ Scope.Visit v ∧
      (e.write d r).root =
        some ((v (r.root.getD (rootOf d))).descend steps (Scope.alterCase d.fullPath g)) := by
  cases e with
  | begun => exact absurd rfl he
  | property name value =>
    exact ⟨(path d).map (·, id), id, TestCase.addProperty name value,
      fun _ => Scope.visit_of_mem_map_id, .id, rfl⟩
  | _ => exact ⟨_, _, _, fun _ => visit_of_mem_visits, .touch _ _, root_record d _ _ _ r⟩

theorem tidy_write {r : Report} (h : ∀ root, r.root = some root → root.Tidy) (e : Entry) :
    ∀ root, (e.write r).root = some root → root.Tidy := by
  intro root hroot
  by_cases he : e.event = .begun
  · rw [Entry.write, he] at hroot
    exact h root hroot
  · obtain ⟨steps, v, g, hsteps, hv, hwrite⟩ :=
      e.event.root_write he e.test { r with clock := e.clock }
    rw [Entry.write, hwrite] at hroot
    cases hroot
    have hstart : (r.root.getD (rootOf e.test)).Tidy := by
      cases hr : r.root with
      | none => exact .ofStep _
      | some s => exact h s hr
    exact (hstart.of_scopes (hv.scopes _)).descend (f := Scope.alterCase e.test.fullPath g) hsteps
      (fun _ => rfl) fun _ => rfl

theorem tidy_writeAll (es : List Entry) {r : Report} (h : ∀ root, r.root = some root → root.Tidy) :
    ∀ root, (writeAll es r).root = some root → root.Tidy := by
  induction es generalizing r with
  | nil => exact h
  | cons e rest ih => exact ih (tidy_write h e)

theorem tidy_created (name : String) (created : Stamp) (environment : Environment)
    (es : List Entry) (root : Scope)
    (h : (writeAll es (create name created environment)).root = some root) : root.Tidy := by
  refine tidy_writeAll es ?_ root h
  intro root hroot
  cases hroot

theorem heading?_of_leads {r : Report} {root s : Scope} {p : List Step} (hroot : r.root = some root)
    (htidy : root.Tidy) (h : root.Leads p s) : r.heading? p = some s.heading := by
  rw [heading?, hroot, Option.bind_some, Scope.heading?, h.find?_eq htidy]; rfl

/-- A start and a property leave every scope where it stands, with its flags and its time. -/
theorem leads_write {e : Entry} (he : e.event.flags? = none) {r : Report} {root s : Scope}
    {p : List Step} (hroot : r.root = some root) (h : root.Leads p s) :
    ∃ root' s', (e.write r).root = some root' ∧ root'.Leads p s' ∧ s'.flags = s.flags ∧
      s'.time = s.time := by
  rcases Event.flags?_eq_none.1 he with he | ⟨name, value, he⟩
  · rw [Entry.write, he]
    exact ⟨root, s, hroot, h, rfl, rfl⟩
  · have hwrite : (e.write r).root = some ((r.root.getD (rootOf e.test)).alter (path e.test)
        (Scope.alterCase e.test.fullPath (TestCase.addProperty name value))) := by
      rw [Entry.write, he]; rfl
    rw [hroot] at hwrite
    obtain ⟨s', hs', hheading, htime⟩ := h.descend (path e.test)
      (f := Scope.alterCase e.test.fullPath (TestCase.addProperty name value))
      fun _ => ⟨rfl, rfl, rfl⟩
    exact ⟨_, s', hwrite, hs', congrArg Heading.flags hheading, htime⟩

/-- A start and a property leave the flags and the time of every test case. -/
theorem testCase?_write_quiet {e : Entry} (he : e.event.flags? = none) {r : Report} {d : TestId}
    {c : TestCase} (h : r.testCase? d = some c) :
    ∃ c', (e.write r).testCase? d = some c' ∧ c'.flags = c.flags ∧ c'.time = c.time := by
  rw [e.testCase?_write, h]
  split
  · exact ⟨_, rfl, by simp [Event.amend, he], by simp [Event.amend, he]⟩
  · exact ⟨c, rfl, rfl, rfl⟩

section

variable {name : String} {created : Stamp} {environment : Environment} {es : List Entry}
  {root s : Scope} {p : List Step}

theorem shows_of_leads (hroot : (writeAll es (create name created environment)).root = some root)
    (hs : root.Leads p s) :
    s.flags = ((statusesAt p es).filterMap (·.event.flags?)).foldl Flags.merge .unset ∧
      s.time.isSome = !(statusesAt p es).isEmpty := by
  have hheading := heading?_of_leads hroot (tidy_created name created environment es root hroot) hs
  have hflags := flagsAt_writeAll es (create name created environment) p
  have htimed := timedAt_writeAll es (create name created environment) p
  rw [flagsAt, hheading] at hflags
  rw [timedAt, hheading] at htimed
  exact ⟨hflags, htimed⟩

theorem shows_last (hroot : (writeAll es (create name created environment)).root = some root)
    (hs : root.Leads p s) {last : Entry} (hlast : (statusesAt p es).getLast? = some last) :
    s.flags.executed = last.event.flags?.bind Flags.executed ∧
      s.flags.verdict = last.event.flags?.bind Flags.verdict ∧ s.time.isSome := by
  obtain ⟨hflags, htime⟩ := shows_of_leads hroot hs
  have hmem : last ∈ statusesAt p es := List.mem_of_getLast? hlast
  have hstatus : Passes last.test p ∧ last.event.flags?.isSome = true :=
    of_decide_eq_true (List.mem_filter.1 hmem).2
  obtain ⟨hexecuted, hverdict⟩ := Event.isSome_of_flags? hstatus.2
  refine ⟨?_, ?_, ?_⟩
  · rw [hflags, flag_last Flags.executed_merge hlast hexecuted]
  · rw [hflags, flag_last Flags.verdict_merge hlast hverdict]
  · rw [htime, Bool.not_eq_true', List.isEmpty_eq_false_iff]
    exact List.ne_nil_of_mem hmem

end

theorem root_of_status (name : String) (created : Stamp) (environment : Environment)
    {es : List Entry} (h : statusesAt [] es ≠ []) :
    ∃ root, (writeAll es (create name created environment)).root = some root := by
  have htimed := timedAt_writeAll es (create name created environment) []
  cases hr : (writeAll es (create name created environment)).root with
  | some root => exact ⟨root, rfl⟩
  | none =>
    rw [timedAt, heading?, hr] at htimed
    have hempty : (!(statusesAt [] es).isEmpty) = false := (Bool.or_eq_false_iff.1 htimed.symm).2
    rw [Bool.not_eq_false', List.isEmpty_iff] at hempty
    exact absurd hempty h

/-- **Scopes show the last write.** After any entries, a scope shows what the entries of status tell
on the ways that lead through it. If there are none, it has no flags and no time. Otherwise it has a
time and the last entry says whether it ran and with which verdict, and the last entry that judges
success says whether it was one. For the root, all entries count. Starts and properties change no
flags and no times. -/
theorem rollup_writeAll (name : String) (created : Stamp) (environment : Environment)
    (es : List Entry) :
    let r := writeAll es (create name created environment)
    (∀ root p s, r.root = some root → root.Leads p s →
      let own := es.filter fun e => Passes e.test p ∧ e.event.flags?.isSome
      (own = [] → s.flags = .unset ∧ s.time = none) ∧
        (∀ last, own.getLast? = some last →
          s.flags.executed = last.event.flags?.bind Flags.executed ∧
          s.flags.verdict = last.event.flags?.bind Flags.verdict ∧ s.time.isSome) ∧
        s.flags.success = (own.filterMap (·.event.success?)).getLast?) ∧
      (∀ last, (es.filter fun e => e.event.flags?.isSome).getLast? = some last →
        ∃ root, r.root = some root ∧
          root.flags.executed = last.event.flags?.bind Flags.executed ∧
          root.flags.verdict = last.event.flags?.bind Flags.verdict) ∧
      ∀ e : Entry, (e.event = .begun ∨ ∃ name value, e.event = .property name value) →
        (∀ root p s, r.root = some root → root.Leads p s →
          ∃ root' s', (e.write r).root = some root' ∧ root'.Leads p s' ∧ s'.flags = s.flags ∧
            s'.time = s.time) ∧
        ∀ d c, r.testCase? d = some c →
          ∃ c', (e.write r).testCase? d = some c' ∧ c'.flags = c.flags ∧ c'.time = c.time := by
  intro r
  refine ⟨?_, ?_, ?_⟩
  · intro root p s hroot hs own
    obtain ⟨hflags, htime⟩ := shows_of_leads hroot hs
    have hown : statusesAt p es = own := rfl
    rw [hown] at hflags htime
    refine ⟨?_, fun last h => shows_last hroot hs h, ?_⟩
    · intro hnone
      rw [hnone] at hflags htime
      exact ⟨hflags, by simpa using htime⟩
    · have hsuccess := foldl_merge Flags.success Flags.success_merge
        (own.filterMap (·.event.flags?)) .unset
      rw [← hflags, List.filterMap_filterMap] at hsuccess
      simp only [Event.success?_eq] at hsuccess
      exact hsuccess.trans Option.or_none
  · intro last hl
    have hall : statusesAt [] es = es.filter fun e => e.event.flags?.isSome := by
      simp [statusesAt, passes_root]
    rw [← hall] at hl
    have hsome : statusesAt [] es ≠ [] := List.ne_nil_of_mem (List.mem_of_getLast? hl)
    obtain ⟨root, hroot⟩ := root_of_status name created environment hsome
    obtain ⟨hexecuted, hverdict, _⟩ := shows_last hroot .here hl
    exact ⟨root, hroot, hexecuted, hverdict⟩
  · intro e he
    have hquiet : e.event.flags? = none := Event.flags?_eq_none.2 he
    exact ⟨fun root p s hroot hs => leads_write hquiet hroot hs,
      fun d c hc => testCase?_write_quiet hquiet hc⟩

/-- A passed assertion and then an error under another spelling of the suite: the scope that both
share shows the verdict of the error and the success of the assertion. -/
theorem rollup_writeAll_cart :
    let es : List Entry := [⟨⟨"shop.cart", "en", "add"⟩, 0, .passed⟩,
      ⟨⟨"Shop.Cart", "de", "add"⟩, 5, .exception "connection lost" []⟩]
    let r := writeAll es (create "Shop" ⟨"2024-05-01", "12:00:00"⟩
      (.capture ⟨"linux", "x64", "/", "host"⟩ fun _ => none))
    ∃ root s, r.root = some root ∧ root.Leads [⟨.segment, "cart"⟩] s ∧
      s.flags = ⟨some true, some .failed, some true⟩ := by
  intro es r
  have hchild : (r.root.bind fun root => root.scopes.head?).map (fun s => Step.mk s.kind s.name) =
      some ⟨.segment, "cart"⟩ := by decide +kernel
  obtain ⟨s, hs, hstep⟩ := Option.map_eq_some_iff.1 hchild
  obtain ⟨root, hroot, hhead⟩ := Option.bind_eq_some_iff.1 hs
  have hleads : root.Leads [⟨.segment, "cart"⟩] s :=
    hstep ▸ .into (List.mem_of_head? hhead) .here
  obtain ⟨_, hlast, hsuccess⟩ := (rollup_writeAll "Shop" ⟨"2024-05-01", "12:00:00"⟩
    (.capture ⟨"linux", "x64", "/", "host"⟩ fun _ => none) es).1 root _ s hroot hleads
  obtain ⟨hexecuted, hverdict, _⟩ :=
    hlast ⟨⟨"Shop.Cart", "de", "add"⟩, 5, .exception "connection lost" []⟩ (by decide +kernel)
  have hjudged : s.flags.success = some true := hsuccess.trans (by decide +kernel)
  refine ⟨root, s, hroot, hleads, ?_⟩
  calc s.flags
    _ = ⟨s.flags.executed, s.flags.verdict, s.flags.success⟩ := rfl
    _ = ⟨some true, some .failed, some true⟩ := by rw [hexecuted, hverdict, hjudged]; rfl

end Selenese.Report
