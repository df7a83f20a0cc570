import Selenese.Proofs.Report.Tree

/-!
# Selenese.Proofs.Report.Scope

The scopes of a tree: where they stand, and what they show after a path was gone down.

* `Scope.heading`: what a scope shows of itself. How long it took is left out, as in
  `TestCase.untimed`.
* `Scope.heading?_descend`: going down a path acts on the headings along it, creates those that are
  missing, and leaves every other heading alone.
* `Scope.Leads s path t`: `t` stands in `s`, and `path` spells the names on the way to it.
* `Scope.Tidy`: no two children of a scope have one key. In a tidy tree, looking up a path finds
  every scope that stands there.
-/

namespace Selenese.Report

open Text

/-- A test case, but for how long it took. -/
def TestCase.untimed (c : TestCase) : TestCase := { c with time := c.time.map fun _ => 0 }

/-- What a scope shows of itself, but for how long it took. -/
structure Heading where
  kind : ScopeKind
  name : String
  flags : Flags
  /-- Whether a time is recorded. -/
  timed : Bool
deriving DecidableEq, Repr

namespace Heading

def ofStep (s : Step) : Heading := ⟨s.kind, s.name, .unset, false⟩

def touch (update : Flags) (h : Heading) : Heading :=
  { h with flags := h.flags.merge update, timed := true }

end Heading

namespace Scope

def heading (s : Scope) : Heading := ⟨s.kind, s.name, s.flags, s.time.isSome⟩

def heading? (path : List Step) (s : Scope) : Option Heading := (s.find? path).map heading

theorem heading?_nil (s : Scope) : s.heading? [] = some s.heading := rfl

theorem heading?_cons (step : Step) (path : List Step) (s : Scope) :
    s.heading? (step :: path) = (s.scopes.find? (fits step)).bind (heading? path) := by
  simp only [heading?, find?, Option.map_bind]
  rfl

/-- A new scope has no scope in it. -/
theorem heading?_getD (a step : Step) (path : List Step) (o : Option Scope) :
    (o.getD (ofStep step)).heading? (a :: path) = o.bind (heading? (a :: path)) := by
  cases o with
  | none => rfl
  | some s => rfl

theorem heading_getD (step : Step) (o : Option Scope) :
    (o.getD (ofStep step)).heading = (o.bind (heading? [])).getD (.ofStep step) := by
  cases o with
  | none => rfl
  | some s => rfl

theorem heading_descend {steps : List (Step × (Scope → Scope))} {f : Scope → Scope}
    (hf : ∀ s, (f s).heading = s.heading) (s : Scope) : (descend steps f s).heading = s.heading := by
  cases steps with
  | nil => exact hf s
  | cons p rest => rfl

section

variable {act : Heading → Heading} {f : Scope → Scope} (hf : ∀ s, (f s).heading = s.heading)
  (hscopes : ∀ s, (f s).scopes = s.scopes)

include hf hscopes

theorem heading?_descend {steps : List (Step × (Scope → Scope))} (hv : ∀ p ∈ steps, Visit p.2)
    (hact : ∀ p ∈ steps, ∀ s, (p.2 s).heading = act s.heading) {v : Scope → Scope} (hvisit : Visit v)
    (hv' : ∀ s, (v s).heading = act s.heading) (first : Step) (o : Option Scope)
    (path : List Step) :
    (descend steps f (v (o.getD (ofStep first)))).heading? path =
      if path.map Step.key <+: steps.map (·.1.key) then
        some (act ((o.bind (heading? path)).getD
          (.ofStep (((steps.map Prod.fst).take path.length).getLastD first))))
      else o.bind (heading? path) := by
  -- the scope that a path is gone down from is visited first, and may be new
  induction steps generalizing v first o path with
  | nil =>
    cases path with
    | nil => simp [descend, heading?_nil, hf, hv', heading_getD]
    | cons a p =>
      rw [if_neg (by simp), ← heading?_getD a first p o, heading?_cons, heading?_cons, descend,
        hscopes, hvisit.scopes]
  | cons q rest ih =>
    obtain ⟨step, visit⟩ := q
    have hrest : ∀ p ∈ rest, Visit p.2 := fun p hp => hv p (List.mem_cons_of_mem _ hp)
    have hrest' : ∀ p ∈ rest, ∀ s, (p.2 s).heading = act s.heading :=
      fun p hp => hact p (List.mem_cons_of_mem _ hp)
    have hstep : Visit visit := hv (step, visit) List.mem_cons_self
    have hstep' : ∀ s, (visit s).heading = act s.heading := hact (step, visit) List.mem_cons_self
    cases path with
    | nil => simp [heading?_nil, heading_descend hf, hv', heading_getD]
    | cons a p =>
      have hfkey : ∀ s, (f s).key = s.key := by
        intro s
        have hkind : (f s).kind = s.kind := congrArg Heading.kind (hf s)
        have hname : (f s).name = s.name := congrArg Heading.name (hf s)
        rw [key, hkind, hname]; rfl
      have hkey : ∀ t : Scope, (descend rest f (visit t)).key = t.key := by
        intro t
        rw [descend_key hrest hfkey, key, hstep.kind, hstep.name]; rfl
      have h := find?_alterOrAdd Scope.key (key_ofStep step) hkey a.key
        (v (o.getD (ofStep first))).scopes
      rw [← heading?_getD a first p o, heading?_cons, heading?_cons, fits_eq a]
      simp only [descend, alterChild, fits_eq step, h]
      rw [hvisit.scopes]
      by_cases hk : step.key = a.key
      · rw [if_pos hk, Option.bind_some, ih hrest hrest' hstep hstep']
        simp only [List.map_cons, List.cons_prefix_cons, hk, true_and, List.length_cons,
          List.take_succ_cons, List.getLastD_cons]
      · rw [if_neg hk, if_neg]
        simp [List.cons_prefix_cons, Ne.symm hk]

end

/-! ## Where scopes stand -/

/-- A scope stands in another, at the end of a path that spells the names on the way. -/
inductive Leads : Scope → List Step → Scope → Prop where
  | here {s : Scope} : Leads s [] s
  | into {s c t : Scope} {path : List Step} : c ∈ s.scopes → Leads c path t →
      Leads s (⟨c.kind, c.name⟩ :: path) t

/-- No two children of a scope have one key. -/
inductive Tidy : Scope → Prop where
  | intro {s : Scope} : (s.scopes.map key).Nodup → (∀ c ∈ s.scopes, Tidy c) → Tidy s

theorem Tidy.ofStep (step : Step) : Tidy (ofStep step) := by
  refine .intro List.nodup_nil ?_
  intro c hc
  cases hc

theorem Tidy.of_scopes {s t : Scope} (h : s.Tidy) (hscopes : t.scopes = s.scopes) : t.Tidy := by
  cases h with
  | intro hkeys hchildren => exact .intro (hscopes ▸ hkeys) (hscopes ▸ hchildren)

theorem Tidy.descend {steps : List (Step × (Scope → Scope))} (hv : ∀ p ∈ steps, Visit p.2)
    {f : Scope → Scope} (hf : ∀ s, (f s).key = s.key) (hscopes : ∀ s, (f s).scopes = s.scopes)
    {s : Scope} (h : s.Tidy) : (s.descend steps f).Tidy := by
  induction steps generalizing s with
  | nil => exact h.of_scopes (hscopes s)
  | cons q rest ih =>
    obtain ⟨step, visit⟩ := q
    have hrest : ∀ p ∈ rest, Visit p.2 := fun p hp => hv p (List.mem_cons_of_mem _ hp)
    have hvisit : Visit visit := hv (step, visit) List.mem_cons_self
    have hkey : ∀ t : Scope, (Scope.descend rest f (visit t)).key = t.key := by
      intro t
      rw [descend_key hrest hf, key, hvisit.kind, hvisit.name]; rfl
    cases h with
    | intro hkeys hchildren =>
      refine .intro ?_ ?_
      · show ((alterOrAdd (fits step) _ _ s.scopes).map key).Nodup
        have hnoted := map_alterOrAdd_note id key (key_ofStep step) hkey s.scopes
        rw [← List.map_id (s.scopes.map key)] at hkeys
        have hnodup := nodup_note id hkeys step.key
        rw [List.map_id, ← hnoted] at hnodup
        rw [fits_eq]
        exact hnodup
      · intro c hc
        rcases of_mem_alterOrAdd hc with hc | ⟨b, hb, rfl⟩
        · exact hchildren c hc
        · refine ih hrest ?_
          rcases List.mem_cons.1 hb with rfl | hb
          · exact (Tidy.ofStep step).of_scopes (hvisit.scopes _)
          · exact (hchildren b hb).of_scopes (hvisit.scopes b)

theorem find?_of_nodup {α κ : Type} [DecidableEq κ] (key : α → κ) {l : List α}
    (h : (l.map key).Nodup) {a : α} (ha : a ∈ l) :
    l.find? (fun b => decide (key b = key a)) = some a := by
  cases hfind : l.find? fun b => decide (key b = key a) with
  | none => exact absurd (List.find?_eq_none.1 hfind a ha) (by simp)
  | some b =>
    have hfound := List.find?_some hfind
    have hmem : b ∈ l := List.mem_of_find?_eq_some hfind
    exact congrArg some (List.inj_on_of_nodup_map h hmem ha (of_decide_eq_true hfound))

/-- In a tidy tree, the scope at the end of a path is the one that looking it up finds. -/
theorem Leads.find?_eq {s t : Scope} {path : List Step} (h : s.Leads path t) (hs : s.Tidy) :
    s.find? path = some t := by
  induction h with
  | here => rfl
  | @into s c t path hc _ ih =>
    cases hs with
    | intro hkeys hchildren =>
      have hfound : s.scopes.find? (fits ⟨c.kind, c.name⟩) = some c := by
        rw [fits_eq]
        exact find?_of_nodup key hkeys hc
      rw [Scope.find?, hfound]
      exact ih (hchildren c hc)

/-- What going down any path keeps of the scope that it starts from, it keeps of every scope that
stands there. -/
theorem Leads.alter {R : Scope → Scope → Prop} {f : Scope → Scope} (hrefl : ∀ s, R s s)
    (hname : ∀ {s s'}, R s s' → s'.kind = s.kind ∧ s'.name = s.name)
    (hscopes : ∀ s, (f s).scopes = s.scopes) (halter : ∀ steps s, R s (s.alter steps f))
    {s t : Scope} {path : List Step} (h : s.Leads path t) (steps : List Step) :
    ∃ t', (s.alter steps f).Leads path t' ∧ R t t' := by
  induction h generalizing steps with
  | @here s => exact ⟨_, .here, halter steps s⟩
  | @into s c t path hc hleads ih =>
    cases steps with
    | nil => exact ⟨t, .into ((hscopes s).symm ▸ hc) hleads, hrefl t⟩
    | cons step rest =>
      rcases mem_alterOrAdd (fits step) (ofStep step) (Scope.alter rest f) hc with hmem | hmem
      · exact ⟨t, .into hmem hleads, hrefl t⟩
      · obtain ⟨t', ht', hkept⟩ := ih rest
        obtain ⟨hkind, hcname⟩ := hname (halter rest c)
        have hleads' := Leads.into (s := s.alter (step :: rest) f) hmem ht'
        rw [hkind, hcname] at hleads'
        exact ⟨t', hleads', hkept⟩

/-- Going down a path and visiting nothing leaves every scope where it stands, with its heading and
its time. -/
theorem Leads.descend {s t : Scope} {path : List Step} (h : s.Leads path t)
    (steps : List Step) {f : Scope → Scope}
    (hf : ∀ s, (f s).heading = s.heading ∧ (f s).time = s.time ∧ (f s).scopes = s.scopes) :
    ∃ t', (s.alter steps f).Leads path t' ∧ t'.heading = t.heading ∧ t'.time = t.time := by
  refine h.alter (R := fun s s' => s'.heading = s.heading ∧ s'.time = s.time) (fun _ => ⟨rfl, rfl⟩)
    (fun h => ⟨congrArg Heading.kind h.1, congrArg Heading.name h.1⟩) (fun s => (hf s).2.2) ?_ steps
  intro steps s
  cases steps with
  | nil => exact ⟨(hf s).1, (hf s).2.1⟩
  | cons step rest => exact ⟨rfl, rfl⟩

end Scope

end Selenese.Report
