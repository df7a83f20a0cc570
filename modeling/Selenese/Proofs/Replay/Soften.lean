import Selenese.Proofs.Replay.Account

/-!
# Selenese.Proofs.Replay.Soften

Assertions and verifications differ only in whether a failure ends the run.

* `Script.softened` is a script with a verification in place of every known assertion.
* `Replay.Agrees x y`: what a command can see and change is the same in `x` and `y`, and so are the
  verification errors.
* `Replay.Eases r r'`: `r'` is how a line or a run ends after softening if it ended in `r` before.
* `Replay.ending_eases`: the lines that a run gets to end so after softening.
* `Replay.run_softened`: the whole run, and what the softened one does after the line at which the
  first one stopped.
-/

namespace Selenese

open Session (LogGrows)

namespace Line

/-- A known assertion becomes a verification. Every other line stays. -/
def softened (l : Line) : Line :=
  if Command.isKnown l.command ∧ l.isAssertion then l.verifying else l

theorem softened_of_unknown {l : Line} (h : Command.lookup? l.command = none) : l.softened = l := by
  simp [softened, Command.isKnown, h]

theorem softened_of_not {l : Line} (h : l.isAssertion = false) : l.softened = l := by
  simp [softened, h]

theorem softened_of_isAssertion {l : Line} (h : l.isAssertion = true) {b : Behaviour}
    (hb : Command.lookup? l.command = some b) : l.softened = l.verifying := by
  simp [softened, Command.isKnown, h, hb]

theorem isAssertion_verifying (l : Line) : l.verifying.isAssertion = false := by
  have hcommand : l.verifying.command.toList = "verify".toList ++ l.command.toList.drop 6 :=
    String.toList_append.trans (congrArg ("verify".toList ++ ·) String.toList_ofList)
  have htake : l.verifying.command.toList.take 6 = "verify".toList := by
    rw [hcommand]
    exact List.take_left' (by decide)
  rw [isAssertion, htake]
  decide

end Line

/-- A command reads the target and the value of its line, never its name. -/
theorem Behaviour.execute_verifying (b : Behaviour) (options : Options) (l : Line) :
    b.execute options l.verifying = b.execute options l := by
  cases b <;> rfl

def Script.softened (s : Script) : Script := { s with lines := s.lines.map Line.softened }

namespace Replay

structure Agrees (x y : Replay) : Prop where
  options : y.options = x.options
  session : y.session = x.session
  baseUrl : y.baseUrl = x.baseUrl
  store : y.store = x.store
  verificationErrors : y.verificationErrors = x.verificationErrors

namespace Agrees

variable {x y : Replay}

theorem context (h : Agrees x y) : y.context = x.context := by
  rw [Replay.context, h.session, h.baseUrl, h.store]; rfl

theorem withContext (h : Agrees x y) (c : Context) : Agrees (x.withContext c) (y.withContext c) :=
  ⟨h.options, rfl, rfl, rfl, h.verificationErrors⟩

/-! What the reports are told makes no difference. -/

theorem tell_left (h : Agrees x y) (f : Report → Report) : Agrees (x.tell f) y :=
  ⟨h.options, h.session, h.baseUrl, h.store, h.verificationErrors⟩

theorem tell_right (h : Agrees x y) (f : Report → Report) : Agrees x (y.tell f) :=
  ⟨h.options, h.session, h.baseUrl, h.store, h.verificationErrors⟩

end Agrees

/-- The phase and the last error say how a run went, and a command sees neither. -/
theorem Agrees.withEnd {x y : Replay} (h : Agrees x y) (phase phase' : Phase)
    (lastError lastError' : Option String) :
    Agrees { x with phase, lastError } { y with phase := phase', lastError := lastError' } :=
  ⟨h.options, h.session, h.baseUrl, h.store, h.verificationErrors⟩

def addError (m : String) (x : Replay) : Replay :=
  { x with verificationErrors := x.verificationErrors ++ [m] }

theorem Agrees.addError {x y : Replay} (h : Agrees x y) (m : String) :
    Agrees (x.addError m) (y.addError m) :=
  ⟨h.options, h.session, h.baseUrl, h.store, congrArg (· ++ [m]) h.verificationErrors⟩

/-- How lines end after softening. -/
inductive Eases : EStateM.Result Fault Replay Unit → EStateM.Result Fault Replay Unit → Prop where
  | ok {x y : Replay} : Agrees x y → Eases (.ok () x) (.ok () y)
  | broken {x y : Replay} {f : Fault} :
      f.isFailedAssertion = false → Agrees x y → Eases (.error f x) (.error f y)
  /-- The message of the failed assertion is one more verification error. -/
  | softened {x y : Replay} {m place : String} : Agrees (x.addError m) y →
      Eases (.error (.assertionFailed m place) x) (.ok () y)

/-! ## One line -/

theorem isFailedAssertion_faultOf (f : Failure) : (faultOf f).isFailedAssertion = false := by
  cases f <;> rfl

theorem Ends.eases {l : Line} {x y : Replay} {out : EStateM.Result Fault Replay Unit}
    (h : Ends l x out) (hxy : Agrees x y) : ∃ out', Ends l.softened y out' ∧ Eases out out' := by
  have hexecute : ∀ b : Behaviour,
      b.execute y.options l y.context = b.execute x.options l x.context := by
    intro b
    rw [hxy.options, hxy.context]
  cases h with
  | unknown hb =>
    rw [Line.softened_of_unknown hb]
    exact ⟨_, .unknown hb, .broken rfl hxy⟩
  | @done b c hb hx ha =>
    rw [Line.softened_of_not ha]
    exact ⟨_, .done hb ((hexecute b).trans hx) ha, .ok (hxy.withContext c)⟩
  | @passed b c hb hx ha =>
    rw [Line.softened_of_isAssertion ha hb]
    refine ⟨_, .done (Line.lookup?_verifying ha hb) ?_ l.isAssertion_verifying,
      .ok ((hxy.withContext c).tell_left _)⟩
    rw [b.execute_verifying, hexecute, hx]
  | @soft b c f m n hb hx hs ha =>
    rw [Line.softened_of_not ha]
    exact ⟨_, .soft hb ((hexecute b).trans hx) hs ha, .ok ((hxy.withContext c).addError m)⟩
  | @fatal b c f m hb hx hs ha =>
    rw [Line.softened_of_isAssertion ha hb]
    refine ⟨_, .soft (Line.lookup?_verifying ha hb) ?_ hs l.isAssertion_verifying,
      .softened (((hxy.withContext c).tell_left _).addError m)⟩
    rw [b.execute_verifying, hexecute, hx]
  | @broken b c f hb hx hs =>
    by_cases ha : l.isAssertion = true
    · rw [Line.softened_of_isAssertion ha hb]
      refine ⟨_, .broken (Line.lookup?_verifying ha hb) ?_ hs,
        .broken (isFailedAssertion_faultOf f) (((hxy.withContext c).tell_left _).tell_right _)⟩
      rw [b.execute_verifying, hexecute, hx]
    · rw [Line.softened_of_not (Bool.eq_false_iff.2 ha)]
      exact ⟨_, .broken hb ((hexecute b).trans hx) hs,
        .broken (isFailedAssertion_faultOf f) (((hxy.withContext c).tell_left _).tell_right _)⟩

theorem executeLine_eases (l : Line) {x y : Replay} (h : Agrees x y) :
    Eases (executeLine l x) (executeLine l.softened y) := by
  obtain ⟨out', hout', heases⟩ := (executeLine_ends l x).eases h
  rw [hout'.eq]
  exact heases

/-! ## Lines one after another -/

/-- The number of lines that are run, the fatal one included. -/
def executed (lines : List Line) (x : Replay) : Nat := (runLines (fun _ _ => ()) lines x).1.length

theorem executed_cons (l : Line) (rest : List Line) (x : Replay) :
    executed (l :: rest) x =
      match executeLine l x with
      | .ok () x' => executed rest x' + 1
      | .error _ _ => 1 := by
  rw [executed, runLines]
  cases executeLine l x <;> rfl

theorem ending_append (lines lines' : List Line) (x : Replay) :
    ending (lines ++ lines') x =
      match ending lines x with
      | .ok () x' => ending lines' x'
      | .error f x' => .error f x' := by
  induction lines generalizing x with
  | nil => rfl
  | cons l rest ih =>
    rw [List.cons_append, ending_cons, ending_cons]
    cases executeLine l x with
    | ok u x' => exact ih x'
    | error f x' => rfl

theorem executed_of_ok {lines : List Line} {x x' : Replay} (h : ending lines x = .ok () x') :
    executed lines x = lines.length := by
  induction lines generalizing x with
  | nil => rfl
  | cons l rest ih =>
    rw [ending_cons] at h
    rw [executed_cons]
    cases hl : executeLine l x with
    | ok u x'' =>
      rw [hl] at h
      exact congrArg (· + 1) (ih h)
    | error f x'' =>
      rw [hl] at h
      cases h

/-- By induction on the lines: those that a run gets to end after softening as one of them would. -/
theorem ending_eases (lines : List Line) {x y : Replay} (h : Agrees x y) :
    Eases (ending lines x) (ending ((lines.map Line.softened).take (executed lines x)) y) := by
  induction lines generalizing x y with
  | nil => exact .ok h
  | cons l rest ih =>
    have hline := executeLine_eases l h
    rw [ending_cons, executed_cons]
    cases hl : executeLine l x with
    | ok u x' =>
      rw [hl] at hline
      dsimp only
      rw [List.map_cons, List.take_succ_cons, ending_cons]
      generalize executeLine l.softened y = out at hline ⊢
      cases hline with
      | ok hxy => exact ih hxy
    | error f x' =>
      rw [hl] at hline
      dsimp only
      rw [List.map_cons, List.take_succ_cons, ending_cons, List.take_zero]
      generalize executeLine l.softened y = out at hline ⊢
      cases hline with
      | broken hf hxy => exact .broken hf hxy
      | softened hxy => exact .softened hxy

/-- A run may be cut after any line: what is left runs from where the first part ended. -/
theorem ending_cut (lines : List Line) (n : Nat) (x : Replay) :
    ending lines x =
      match ending (lines.take n) x with
      | .ok () x' => ending (lines.drop n) x'
      | .error f x' => .error f x' := by
  rw [← ending_append, List.take_append_drop]

/-- The log of a run begins with the log of its first lines. -/
theorem logGrows_cut (lines : List Line) (n : Nat) (x : Replay) :
    LogGrows (stateAfter (ending (lines.take n) x)).session
      (stateAfter (ending lines x)).session := by
  rw [ending_cut lines n]
  cases ending (lines.take n) x with
  | ok u x' => exact ending_session Session.logGrows _ x'
  | error f x' => exact List.prefix_refl _

/-! ## Whole runs -/

theorem Eases.session {out out' : EStateM.Result Fault Replay Unit} (h : Eases out out') :
    (stateAfter out').session = (stateAfter out).session := by
  cases h with
  | ok hxy => exact hxy.session
  | broken hf hxy => exact hxy.session
  | softened hxy => exact hxy.session

theorem Agrees.begin {x y : Replay} (s : Script) (hsession : y.session = x.session)
    (hoptions : y.options = x.options) :
    Agrees (x.begin s) (y.begin s.softened) :=
  ⟨hoptions, hsession, rfl, rfl, rfl⟩

/-- The second log is the first, and perhaps more. -/
theorem calls_softened (lines : List Line) {x y : Replay} (h : Agrees x y) :
    ∃ calls more, (stateAfter (ending lines x)).session.calls = x.session.calls ++ calls ∧
      (stateAfter (ending (lines.map Line.softened) y)).session.calls =
        x.session.calls ++ calls ++ more := by
  obtain ⟨calls, hcalls⟩ := ending_session Session.logGrows lines x
  have hcut := logGrows_cut (lines.map Line.softened) (executed lines x) y
  rw [(ending_eases lines h).session] at hcut
  obtain ⟨more, hmore⟩ := hcut
  refine ⟨calls, more, hcalls.symm, ?_⟩
  rw [← hmore, ← hcalls]

section

variable {lines : List Line} {x y x' : Replay} (h : Agrees x y)
include h

theorem ending_softened_of_ok (hx : ending lines x = .ok () x') :
    ∃ y', ending (lines.map Line.softened) y = .ok () y' ∧ Agrees x' y' := by
  have heases := ending_eases lines h
  have hall : (lines.map Line.softened).take (executed lines x) = lines.map Line.softened := by
    rw [executed_of_ok hx, ← List.length_map (f := Line.softened), List.take_length]
  rw [hall, hx] at heases
  generalize ending (lines.map Line.softened) y = out at heases ⊢
  cases heases with
  | ok hxy => exact ⟨_, rfl, hxy⟩

theorem ending_softened_of_error {f : Fault} (hx : ending lines x = .error f x')
    (hf : f.isFailedAssertion = false) :
    ∃ y', ending (lines.map Line.softened) y = .error f y' ∧ Agrees x' y' := by
  have heases := ending_eases lines h
  rw [ending_cut (lines.map Line.softened) (executed lines x) y]
  rw [hx] at heases
  generalize ending ((lines.map Line.softened).take (executed lines x)) y = out at heases ⊢
  cases heases with
  | broken _ hxy => exact ⟨_, rfl, hxy⟩
  | softened hxy => cases hf

theorem ending_softened_of_failed {m place : String}
    (hx : ending lines x = .error (.assertionFailed m place) x') :
    ∃ y', ending ((lines.map Line.softened).take (executed lines x)) y = .ok () y' ∧
      Agrees (x'.addError m) y' ∧
      ending (lines.map Line.softened) y =
        ending ((lines.map Line.softened).drop (executed lines x)) y' := by
  have heases := ending_eases lines h
  rw [ending_cut (lines.map Line.softened) (executed lines x) y]
  rw [hx] at heases
  generalize ending ((lines.map Line.softened).take (executed lines x)) y = out at heases ⊢
  cases heases with
  | broken hf _ => cases hf
  | softened hxy => exact ⟨_, rfl, hxy, rfl⟩

end

/-- **Assertions and verifications differ only in whether a failure ends the run.** From the same
session and with the same options, a script and the script with verifications make the same calls as
long as the first one runs. If the first ends well or with a fault that is not a failed assertion,
so does the second, and the two agree. If an assertion fails, the second run goes on after that
line, from where the first one stopped and with the message of the failed assertion as one more
verification error. -/
theorem run_softened (s : Script) (x y : Replay) (hsession : y.session = x.session)
    (hoptions : y.options = x.options) :
    let out := run s x
    let out' := run s.softened y
    let n := executed s.lines (x.begin s)
    (∃ calls more, (stateAfter out).session.calls = x.session.calls ++ calls ∧
        (stateAfter out').session.calls = x.session.calls ++ calls ++ more) ∧
      (errorOf? out = none → errorOf? out' = none ∧ Agrees (stateAfter out) (stateAfter out')) ∧
      (∀ f, errorOf? out = some f → f.isFailedAssertion = false →
        errorOf? out' = some f ∧ Agrees (stateAfter out) (stateAfter out')) ∧
      ∀ m place, errorOf? out = some (.assertionFailed m place) →
        ∃ y', ending (s.softened.lines.take n) (y.begin s.softened) = .ok () y' ∧
          Agrees ((stateAfter out).addError m) y' ∧
          out' = finish (ending (s.softened.lines.drop n) y') := by
  intro out out' n
  have hxy : Agrees (x.begin s) (y.begin s.softened) := .begin s hsession hoptions
  have hout : out = finish (ending s.lines (x.begin s)) := rfl
  have hout' : out' = finish (ending (s.lines.map Line.softened) (y.begin s.softened)) := rfl
  refine ⟨?_, ?_, ?_, ?_⟩
  · rw [hout, hout', session_finish, session_finish]
    exact calls_softened s.lines hxy
  · intro hnone
    rw [hout, errorOf?_finish] at hnone
    obtain ⟨_, x', hx⟩ := ok_of_errorOf? hnone
    obtain ⟨y', hy, hagrees⟩ := ending_softened_of_ok hxy hx
    rw [hout, hout', hx, hy]
    exact ⟨rfl, hagrees.withEnd _ _ _ _⟩
  · intro f hf hfail
    rw [hout, errorOf?_finish] at hf
    obtain ⟨x', hx⟩ := error_of_errorOf? hf
    obtain ⟨y', hy, hagrees⟩ := ending_softened_of_error hxy hx hfail
    rw [hout, hout', hx, hy]
    exact ⟨rfl, hagrees.withEnd _ _ _ _⟩
  · intro m place hf
    rw [hout, errorOf?_finish] at hf
    obtain ⟨x', hx⟩ := error_of_errorOf? hf
    obtain ⟨y', hy, hagrees, hrest⟩ := ending_softened_of_failed hxy hx
    refine ⟨y', hy, ?_, ?_⟩
    · rw [hout, hx]
      exact hagrees.withEnd .completed y'.phase _ y'.lastError
    · rw [hout']
      exact congrArg finish hrest

/-- An assertion about the title of an empty page: its failure ends one run and is noted in the
other. -/
theorem run_softened_title :
    let s : Script := ⟨"Home", "", [⟨"assertTitle", "Home", ""⟩, ⟨"open", "", ""⟩]⟩
    let x : Replay := .ready ⟨"shop", "en", "home"⟩ .standard .empty none
    let y : Replay := .ready ⟨"shop", "de", "home"⟩ .standard .empty none
    y.session = x.session ∧ y.options = x.options ∧
      errorOf? (run s x) =
        some (.assertionFailed "expected title 'Home' but was ''" "assertTitle, Home, ") ∧
      ∃ y', ending (s.softened.lines.take 1) (y.begin s.softened) = .ok () y' ∧
        y'.verificationErrors = ["expected title 'Home' but was ''"] := by
  intro s x y
  have hfault : errorOf? (run s x) =
      some (.assertionFailed "expected title 'Home' but was ''" "assertTitle, Home, ") := by
        decide +kernel
  have hexecuted : executed s.lines (x.begin s) = 1 := by decide +kernel
  have herrors : (stateAfter (run s x)).verificationErrors = [] := by decide +kernel
  obtain ⟨_, _, _, hfailed⟩ := run_softened s x y rfl rfl
  obtain ⟨y', hy, hagrees, _⟩ := hfailed _ _ hfault
  rw [hexecuted] at hy
  refine ⟨rfl, rfl, hfault, y', hy, ?_⟩
  rw [hagrees.verificationErrors, addError, herrors]
  rfl

end Replay

end Selenese
