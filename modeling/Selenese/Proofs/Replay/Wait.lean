import Selenese.Proofs.Command.Wait
import Selenese.Proofs.Replay.Line

/-!
# Selenese.Proofs.Replay.Wait

Lines that wait for an element, and lines that delete a cookie, never end a run.

* `Replay.waited c l x n` is the session after `n` attempts of the line `l` to observe the condition
  `c`. `Replay.Observes c l x k`: attempt number `k` would observe it, counted from one.
* `Replay.executeLine_waits`: a wait ends with the first attempt that observes its condition, or with
  a verification error when the attempts are used up; the deletion of a cookie ends well.
-/

namespace Selenese

namespace Behaviour

theorem polls_of_awaits {b : Behaviour} {c : Condition} (h : b.awaits = some c) :
    b.polls = true := by
  cases b with
  | waitForElement _ | waitForText _ | waitForVisibility _ => rfl
  | _ => cases h

end Behaviour

namespace Line

theorem isAssertion_eq_false_of_polls {l : Line} {b : Behaviour}
    (hb : Command.lookup? l.command = some b) (hp : b.polls = true) : l.isAssertion = false := by
  cases ha : l.isAssertion with
  | false => rfl
  | true =>
    have hnot := not_polls ha hb
    rw [hp] at hnot
    cases hnot

theorem isAssertion_eq_false_of_acts {l : Line} {b : Behaviour}
    (hb : Command.lookup? l.command = some b) (hacts : b.acts = true) : l.isAssertion = false := by
  have htable : ∀ e ∈ Command.spelled, "assert".toList.isPrefixOf e.1 → e.2.acts = false := by
    decide +kernel
  cases ha : l.isAssertion with
  | false => rfl
  | true =>
    obtain ⟨e, he, rfl, hprefix, -⟩ := spelled_of_isAssertion ha hb
    rw [htable e he hprefix] at hacts
    cases hacts

end Line

namespace Replay

/-- The session after `n` attempts of a line to observe a condition. -/
def waited (c : Condition) (l : Line) (x : Replay) (n : Nat) : Session :=
  c.attempts (.resolve (x.store.decode l.target)) n x.session

def Observes (c : Condition) (l : Line) (x : Replay) (k : Nat) : Prop :=
  0 < k ∧ c.Observed (.resolve (x.store.decode l.target)) (x.waited c l (k - 1))

instance (c : Condition) (l : Line) (x : Replay) (k : Nat) : Decidable (x.Observes c l k) :=
  inferInstanceAs (Decidable (_ ∧ _))

theorem findCalls_waited (c : Condition) (l : Line) (x : Replay) (n : Nat) :
    (x.waited c l n).findCalls = x.session.findCalls + n :=
  Condition.findCalls_attempts _ c n x.session

section

variable {l : Line} {c : Condition} (h : Command.WaitsFor c l.command) (x : Replay)

include h

theorem executeLine_observed {k : Nat} (hlimit : k ≤ x.options.poll.attempts)
    (hyes : x.Observes c l k) (hno : ∀ j < k, ¬ x.Observes c l j) :
    executeLine l x = .ok () { x with session := x.waited c l k } := by
  obtain ⟨b, hb, hawaits⟩ := Command.lookup?_waits h
  obtain ⟨hpos, hyes⟩ := hyes
  obtain ⟨k, rfl⟩ := Nat.exists_eq_add_one.2 hpos
  have hx := Behaviour.execute_observed hawaits x.options l x.context hlimit hyes
    fun j hj hobserved => hno (j + 1) (by omega) ⟨j.succ_pos, hobserved⟩
  exact (Ends.done hb hx
    (Line.isAssertion_eq_false_of_polls hb (Behaviour.polls_of_awaits hawaits))).eq

theorem executeLine_unobserved (hno : ∀ k ≤ x.options.poll.attempts, ¬ x.Observes c l k) :
    executeLine l x = .ok () { x with
      session := x.waited c l x.options.poll.attempts
      verificationErrors :=
        x.verificationErrors ++ [(Timeout.mk x.options.poll.attempts).message] } := by
  obtain ⟨b, hb, hawaits⟩ := Command.lookup?_waits h
  have hx := Behaviour.execute_unobserved hawaits x.options l x.context
    fun j hj hobserved => hno (j + 1) hj ⟨j.succ_pos, hobserved⟩
  exact (Ends.soft hb hx rfl
    (Line.isAssertion_eq_false_of_polls hb (Behaviour.polls_of_awaits hawaits))).eq

end

theorem executeLine_deleteCookie {l : Line} (h : Command.IsOneOf ["deleteCookie"] l.command)
    (x : Replay) : ∃ s, executeLine l x = .ok () { x with session := s } := by
  have hb := Command.lookup?_deleteCookie h
  obtain ⟨s, hs⟩ := Behaviour.execute_deleteCookie x.options l x.context
  exact ⟨s, (Ends.done hb hs (Line.isAssertion_eq_false_of_acts hb rfl)).eq⟩

/-- **Lines that wait never end a run.** Whatever the session, its forced failures, the variables and
the options: a line that waits ends well, and tells the report nothing and changes no variable. It
looks its element up once an attempt, up to the first attempt that observes its condition; if none of
the allowed attempts does, it makes them all and adds the one verification error that names their
number. A line that deletes a cookie changes at most the session. -/
theorem executeLine_waits (l : Line) (x : Replay) :
    let limit := x.options.poll.attempts
    (∀ c, Command.WaitsFor c l.command →
      (∀ k ≤ limit, x.Observes c l k → (∀ j < k, ¬ x.Observes c l j) →
        executeLine l x = .ok () { x with session := x.waited c l k } ∧
          (x.waited c l k).findCalls = x.session.findCalls + k) ∧
      ((∀ k ≤ limit, ¬ x.Observes c l k) →
        executeLine l x = .ok () { x with
            session := x.waited c l limit
            verificationErrors :=
              x.verificationErrors ++ ["timeout after " ++ toString limit ++ " attempts"] } ∧
          (x.waited c l limit).findCalls = x.session.findCalls + limit)) ∧
    (Command.IsOneOf ["deleteCookie"] l.command →
      ∃ s, executeLine l x = .ok () { x with session := s }) :=
  ⟨fun c h =>
    ⟨fun k hlimit hyes hno => ⟨executeLine_observed h x hlimit hyes hno, x.findCalls_waited c l k⟩,
      fun hno => ⟨executeLine_unobserved h x hno, x.findCalls_waited c l _⟩⟩,
    fun h => executeLine_deleteCookie h x⟩

/-- Three attempts for an element that is there at the third look-up; then for one that is there at
the fourth; and a cookie that cannot be deleted. -/
theorem executeLine_waits_late :
    let page := (Session.empty.add (.id "late") (.ofTag "p") 2).add (.id "later") (.ofTag "p") 3
    let options : Options := { Options.standard with poll := ⟨0, 3⟩ }
    let x := Replay.ready ⟨"S", "f", "t"⟩ options
      (page.failOn .cookieNamed (.backend "gone")) none
    let wait (target : String) : Line := ⟨"WAITforElementPresent", target, ""⟩
    x.Observes .present (wait "id=late") 3 ∧
      executeLine (wait "id=late") x =
        .ok () { x with session := x.waited .present (wait "id=late") 3 } ∧
      x.Observes .present (wait "id=later") 4 ∧
      executeLine (wait "id=later") x =
        .ok () { x with
          session := x.waited .present (wait "id=later") 3
          verificationErrors := ["timeout after 3 attempts"] } ∧
      ∃ s, executeLine ⟨"deletecookie", "name", ""⟩ x = .ok () { x with session := s } := by
  intro page options x wait
  have hwait : Command.WaitsFor .present "WAITforElementPresent" :=
    ⟨("waitForElementPresent", .present), by decide, rfl, "waitForElementPresent", by decide,
      by decide +kernel⟩
  have hlate := (executeLine_waits (wait "id=late") x).1 .present hwait
  have hlater := (executeLine_waits (wait "id=later") x).1 .present hwait
  have hmessage : "timeout after " ++ toString 3 ++ " attempts" = "timeout after 3 attempts" := by
    decide +kernel
  refine ⟨by decide +kernel, (hlate.1 3 (by decide) (by decide +kernel) (by decide +kernel)).1,
    by decide +kernel, ?_, (executeLine_waits _ x).2 ⟨"deleteCookie", by decide, by decide +kernel⟩⟩
  rw [← hmessage]
  exact (hlater.2 (by decide +kernel)).1

end Replay

end Selenese
