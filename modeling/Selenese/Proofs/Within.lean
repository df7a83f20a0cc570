/-!
# Selenese.Proofs.Within

What every run of a stateful action does, however it ends.

* `Within R E m`: from any state, `m` ends in a state that `R` relates to the first, and if it
  fails, the error is in `E`.
* `Spares R E m`: from any state, if `m` fails with an error in `E`, then it does so in a state that
  `R` relates to the first. What `m` does where it succeeds is left open.

The lemmas follow the ways in which actions are put together.
-/

namespace Selenese

variable {ε σ α β : Type}

/-- The state an action left. -/
def stateAfter : EStateM.Result ε σ α → σ
  | .ok _ s => s
  | .error _ s => s

def errorOf? : EStateM.Result ε σ α → Option ε
  | .ok _ _ => none
  | .error e _ => some e

theorem ok_of_errorOf? {r : EStateM.Result ε σ α} (h : errorOf? r = none) : ∃ a s, r = .ok a s := by
  cases r with
  | ok a s => exact ⟨a, s, rfl⟩
  | error e s => cases h

theorem error_of_errorOf? {r : EStateM.Result ε σ α} {e : ε} (h : errorOf? r = some e) :
    ∃ s, r = .error e s := by
  cases r with
  | ok a s => cases h
  | error e' s =>
    cases h
    exact ⟨s, rfl⟩

theorem ok_of_toOption {x : Except ε α} {a : α} (h : x.toOption = some a) :
    x = .ok a := by
  cases x with
  | error e => cases h
  | ok b => exact congrArg Except.ok (Option.some.inj h)

/-- Steps of a relation can be left out and put together. -/
structure Stepwise (R : σ → σ → Prop) : Prop where
  refl : ∀ s, R s s
  trans : ∀ {s t u}, R s t → R t u → R s u

def Within (R : σ → σ → Prop) (E : ε → Prop) (m : EStateM ε σ α) : Prop :=
  ∀ s, match m s with
    | .ok _ s' => R s s'
    | .error e s' => R s s' ∧ E e

namespace Within

variable {R : σ → σ → Prop} {E : ε → Prop}

theorem ok {m : EStateM ε σ α} (h : Within R E m) {s s' : σ} {a : α} (hm : m s = .ok a s') :
    R s s' := by
  have := h s
  rw [hm] at this
  exact this

theorem error {m : EStateM ε σ α} (h : Within R E m) {s s' : σ} {e : ε} (hm : m s = .error e s') :
    R s s' ∧ E e := by
  have := h s
  rw [hm] at this
  exact this

theorem related {m : EStateM ε σ α} (h : Within R E m) (s : σ) : R s (stateAfter (m s)) := by
  cases hm : m s with
  | ok a s' => exact h.ok hm
  | error e s' => exact (h.error hm).1

theorem pure (hR : Stepwise R) (a : α) : Within R E (pure a : EStateM ε σ α) := fun s => hR.refl s

theorem throw (hR : Stepwise R) {e : ε} (he : E e) : Within R E (throw e : EStateM ε σ α) :=
  fun s => ⟨hR.refl s, he⟩

theorem get (hR : Stepwise R) : Within R E (get : EStateM ε σ σ) := fun s => hR.refl s

theorem modify {f : σ → σ} (hf : ∀ s, R s (f s)) : Within R E (modify f : EStateM ε σ PUnit) :=
  fun s => hf s

/-- What is put may depend on what was got. -/
theorem get_set (hR : Stepwise R) {f : σ → σ} {k : σ → EStateM ε σ α} (hf : ∀ s, R s (f s))
    (hk : ∀ s, Within R E (k s)) :
    Within R E (do let s ← MonadState.get; set (f s); k s) := by
  intro s
  have hrun : (do let s ← MonadState.get; set (f s); k s : EStateM ε σ α) s = k s (f s) := rfl
  rw [hrun]
  cases h : k s (f s) with
  | ok a s' => exact hR.trans (hf s) ((hk s).ok h)
  | error e s' => exact ⟨hR.trans (hf s) ((hk s).error h).1, ((hk s).error h).2⟩

theorem bind (hR : Stepwise R) {m : EStateM ε σ α} {f : α → EStateM ε σ β} (hm : Within R E m)
    (hf : ∀ a, Within R E (f a)) : Within R E (m >>= f) := by
  intro s
  show match EStateM.bind m f s with | .ok _ s' => R s s' | .error e s' => R s s' ∧ E e
  unfold EStateM.bind
  cases h : m s with
  | error e s' => exact hm.error h
  | ok a s' =>
    have hfst := hm.ok h
    have hsnd := hf a s'
    dsimp only
    cases h' : f a s' with
    | ok b t =>
      rw [h'] at hsnd
      exact hR.trans hfst hsnd
    | error e t =>
      rw [h'] at hsnd
      exact ⟨hR.trans hfst hsnd.1, hsnd.2⟩

theorem map (hR : Stepwise R) (f : α → β) {m : EStateM ε σ α} (hm : Within R E m) :
    Within R E (f <$> m) := by
  rw [map_eq_pure_bind]
  exact bind hR hm fun a => pure hR (f a)

end Within

/-! ## Where an action fails -/

theorem bind_eq_error {m : EStateM ε σ α} {f : α → EStateM ε σ β} {s t : σ} {e : ε} :
    (m >>= f) s = .error e t ↔ m s = .error e t ∨ ∃ a s', m s = .ok a s' ∧ f a s' = .error e t := by
  show EStateM.bind m f s = _ ↔ _
  unfold EStateM.bind
  cases m s <;> simp [and_assoc]

theorem bind_eq_ok {m : EStateM ε σ α} {f : α → EStateM ε σ β} {s t : σ} {b : β} :
    (m >>= f) s = .ok b t ↔ ∃ a s', m s = .ok a s' ∧ f a s' = .ok b t := by
  show EStateM.bind m f s = _ ↔ _
  unfold EStateM.bind
  cases m s <;> simp [and_assoc]

theorem bind_of_ok {m : EStateM ε σ α} {s t : σ} {a : α} (h : m s = .ok a t) (f : α → EStateM ε σ β) :
    (m >>= f) s = f a t := by
  show EStateM.bind m f s = _
  rw [EStateM.bind, h]

def Spares (R : σ → σ → Prop) (E : ε → Prop) (m : EStateM ε σ α) : Prop :=
  ∀ s e s', m s = .error e s' → E e → R s s'

namespace Spares

variable {R : σ → σ → Prop} {E E' : ε → Prop}

theorem throw (hR : Stepwise R) (e : ε) : Spares R E (throw e : EStateM ε σ α) :=
  fun s _ _ h _ => by cases h; exact hR.refl s

theorem bind (hR : Stepwise R) {m : EStateM ε σ α} {f : α → EStateM ε σ β} (hm : Within R E' m)
    (hf : ∀ a, Spares R E (f a)) : Spares R E (m >>= f) := by
  intro s e t h he
  rcases bind_eq_error.1 h with h | ⟨a, s', ha, h⟩
  · exact (hm.error h).1
  · exact hR.trans (hm.ok ha) (hf a s' e t h he)

end Spares

end Selenese
