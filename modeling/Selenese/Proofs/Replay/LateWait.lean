import Selenese.Proofs.Replay.Noted
import Selenese.Proofs.Replay.Wait
import Selenese.Proofs.Session.Late

/-!
# Selenese.Proofs.Replay.LateWait

Lines that wait one after another for an element which is not there yet.

* `Replay.AwaitsAt l line x`: the line waits until the element under the locator `l` is there.
* `Replay.executeLine_late`: one line uses up as many misses as it may make attempts. It notes a
  timeout if they were not enough misses to be done with, and is done with the next attempt if they
  were.
* `Replay.ending_late`: so of several lines the first ones, as many as the misses fill whole waits,
  note a timeout, and the others go on at once.
-/

namespace Selenese.Replay

open Session (Late)

structure AwaitsAt (l : Locator) (line : Line) (x : Replay) : Prop where
  waits : Command.WaitsFor .present line.command
  target : Locator.resolve (x.store.decode line.target) = l

/-- What a line that waits for an element with `m` misses left makes of a replay. -/
structure WaitsLate (l : Locator) (m : Nat) (line : Line) (x y : Replay) : Prop where
  ends : executeLine line x = .ok () y
  options : y.options = x.options
  store : y.store = x.store
  late : Late l (m - x.options.poll.attempts) y.session
  findCalls : y.session.findCalls = x.session.findCalls + min (m + 1) x.options.poll.attempts
  findCount : y.session.findCount l = x.session.findCount l + min (m + 1) x.options.poll.attempts
  notes : note? line x = if x.options.poll.attempts ≤ m
    then some (Timeout.mk x.options.poll.attempts).message else none

/-- A line that ends well and adds one verification error notes it, and notes nothing else. -/
theorem note?_of_ends {line : Line} {x y : Replay} (h : executeLine line x = .ok () y)
    {note : Option String} (hnote : y.verificationErrors = x.verificationErrors ++ note.toList) :
    note? line x = note := by
  have hends := (executeLine_ends line x).verificationErrors
  rw [h] at hends
  have hsame : note.toList = (note? line x).toList := List.append_cancel_left (hnote.symm.trans hends)
  have hhead := congrArg List.head? hsame
  rwa [Option.head?_toList, Option.head?_toList, eq_comm] at hhead

section

variable {l : Locator} (hl : l.probedText? = none) {m : Nat} {x : Replay}

include hl

theorem executeLine_late {line : Line} (hline : AwaitsAt l line x) (hlate : Late l m x.session) :
    ∃ y, WaitsLate l m line x y := by
  have hobserves (k : Nat) : x.Observes .present line k ↔ m < k := by
    rw [Observes, waited, hline.target, (hlate.attempts hl (k - 1)).observed_iff hl]
    omega
  have hwaited (k : Nat) : x.waited .present line k = Condition.present.attempts l k x.session := by
    rw [waited, hline.target]
  have hcalls (k : Nat) := Condition.findCalls_attempts l .present k x.session
  have hcount (k : Nat) := hlate.findCount_attempts hl k
  by_cases hm : x.options.poll.attempts ≤ m
  · have hno : ∀ k ≤ x.options.poll.attempts, ¬ x.Observes .present line k := by
      intro k hk hyes
      have := (hobserves k).1 hyes
      omega
    have hends := executeLine_unobserved hline.waits x hno
    have hmin : min (m + 1) x.options.poll.attempts = x.options.poll.attempts := by omega
    rw [hwaited] at hends
    refine ⟨_, hends, rfl, rfl, hlate.attempts hl _, ?_, ?_, ?_⟩
    · rw [hmin]
      exact hcalls _
    · rw [hmin]
      exact hcount _
    · rw [if_pos hm]
      exact note?_of_ends hends rfl
  · have hends := executeLine_observed (k := m + 1) hline.waits x (by omega)
      ((hobserves _).2 (by omega)) fun j hj hyes => by
        have := (hobserves j).1 hyes
        omega
    have hmin : min (m + 1) x.options.poll.attempts = m + 1 := by omega
    have hnone : m - x.options.poll.attempts = m - (m + 1) := by omega
    rw [hwaited] at hends
    refine ⟨_, hends, rfl, rfl, ?_, ?_, ?_, ?_⟩
    · rw [hnone]
      exact hlate.attempts hl _
    · rw [hmin]
      exact hcalls _
    · rw [hmin]
      exact hcount _
    · rw [if_neg hm]
      exact note?_of_ends hends (List.append_nil _).symm

end

/-! ## Several lines -/

/-- The look-ups that `k` lines make for an element with `m` misses left. -/
def lookUps (attempts m k : Nat) : Nat :=
  if k ≤ m / attempts then k * attempts else m + k - m / attempts

/-- The timeouts of `k` lines come first. -/
def timeouts (attempts m k : Nat) : List (Option String) :=
  List.replicate (min k (m / attempts)) (some (Timeout.mk attempts).message) ++
    List.replicate (k - m / attempts) none

theorem filterMap_timeouts (attempts m k : Nat) :
    (timeouts attempts m k).filterMap id =
      List.replicate (min k (m / attempts)) (Timeout.mk attempts).message := by
  simp [timeouts]

section

variable {attempts : Nat} (h : 0 < attempts) (m k : Nat)

include h

/-- The look-ups of the first line, and those of the others. -/
theorem lookUps_succ :
    lookUps attempts m (k + 1) = min (m + 1) attempts + lookUps attempts (m - attempts) k := by
  unfold lookUps
  by_cases hm : attempts ≤ m
  · have hdiv : m / attempts = (m - attempts) / attempts + 1 := Nat.div_eq_sub_div h hm
    have hle : (m - attempts) / attempts ≤ m - attempts := Nat.div_le_self _ _
    rw [hdiv, Nat.succ_mul]
    split <;> split <;> omega
  · have hdiv : m / attempts = 0 := Nat.div_eq_of_lt (by omega)
    have hnone : m - attempts = 0 := by omega
    rw [hdiv, hnone, Nat.zero_div, if_neg (Nat.not_succ_le_zero k)]
    split
    · have hk : k = 0 := by omega
      subst hk
      omega
    · omega

/-- The note of the first line, and those of the others. -/
theorem timeouts_succ :
    timeouts attempts m (k + 1) =
      (if attempts ≤ m then some (Timeout.mk attempts).message else none) ::
        timeouts attempts (m - attempts) k := by
  unfold timeouts
  by_cases hm : attempts ≤ m
  · have hdiv : m / attempts = (m - attempts) / attempts + 1 := Nat.div_eq_sub_div h hm
    rw [hdiv, if_pos hm, Nat.add_min_add_right, Nat.add_sub_add_right]
    rfl
  · have hdiv : m / attempts = 0 := Nat.div_eq_of_lt (by omega)
    have hnone : m - attempts = 0 := by omega
    rw [hdiv, hnone, Nat.zero_div, if_neg hm, Nat.min_zero, Nat.min_zero]
    rfl

end

/-- By induction on the lines: the misses that the first line leaves are those of the others. -/
theorem ending_late_counts {l : Locator} (hl : l.probedText? = none) {m : Nat} {lines : List Line}
    {x : Replay} (hlines : ∀ line ∈ lines, AwaitsAt l line x) (hlate : Late l m x.session)
    (hattempts : 1 ≤ x.options.poll.attempts) :
    ∃ y, ending lines x = .ok () y ∧
      (passage lines x).map (fun p => note? p.1 p.2) =
        timeouts x.options.poll.attempts m lines.length ∧
      y.session.pending? l = some (m - lines.length * x.options.poll.attempts) ∧
      y.session.findCalls =
        x.session.findCalls + lookUps x.options.poll.attempts m lines.length ∧
      y.session.findCount l =
        x.session.findCount l + lookUps x.options.poll.attempts m lines.length := by
  induction lines generalizing m x with
  | nil =>
    refine ⟨x, rfl, ?_, ?_, ?_, ?_⟩
    · simp [timeouts, passage]
    · simpa using hlate.pending
    · simp [lookUps]
    · simp [lookUps]
  | cons line rest ih =>
    obtain ⟨x', hx⟩ := executeLine_late hl (hlines line List.mem_cons_self) hlate
    have hrest : ∀ line ∈ rest, AwaitsAt l line x' := by
      intro line hline
      obtain ⟨hwaits, htarget⟩ := hlines line (List.mem_cons_of_mem _ hline)
      exact ⟨hwaits, hx.store ▸ htarget⟩
    obtain ⟨y, hy, hnotes, hpending, hcalls, hcount⟩ :=
      ih hrest hx.late (hx.options ▸ hattempts)
    rw [hx.options] at hnotes hpending hcalls hcount
    refine ⟨y, ?_, ?_, ?_, ?_, ?_⟩
    · rw [ending_cons, hx.ends]
      exact hy
    · rw [passage_of_ok hx.ends, List.map_cons, hnotes, hx.notes, List.length_cons,
        timeouts_succ hattempts]
    · rw [hpending, List.length_cons, Nat.succ_mul]
      congr 1
      omega
    · rw [hcalls, hx.findCalls, List.length_cons, lookUps_succ hattempts, Nat.add_assoc]
    · rw [hcount, hx.findCount, List.length_cons, lookUps_succ hattempts, Nat.add_assoc]

/-- **Waits for a late element use up its misses one wait after another.** Of lines that wait for the
element under a locator, in whatever state of a replay they begin, as many time out as its misses
fill whole waits, and these are the first ones; the others succeed. All lines end well. The misses
that the lines could use up are gone, and every look-up was made for the element: as many as there
are attempts in a line that timed out, those that missed and the one that did not in the first line
that did not, and one in each line after it. -/
theorem ending_late {l : Locator} (hl : l.probedText? = none) {m : Nat} {lines : List Line}
    {x : Replay} (hlines : ∀ line ∈ lines, AwaitsAt l line x) (hlate : Late l m x.session)
    (hattempts : 1 ≤ x.options.poll.attempts) :
    let k := lines.length
    let limit := x.options.poll.attempts
    let q := m / limit
    ∃ y, ending lines x = .ok () y ∧
      (passage lines x).map (fun p => note? p.1 p.2) =
        List.replicate (min k q) (some ("timeout after " ++ toString limit ++ " attempts")) ++
          List.replicate (k - q) none ∧
      y.verificationErrors = x.verificationErrors ++
        List.replicate (min k q) ("timeout after " ++ toString limit ++ " attempts") ∧
      y.session.pending? l = some (m - k * limit) ∧
      y.session.findCalls =
        x.session.findCalls + (if k ≤ q then k * limit else m + k - q) ∧
      y.session.findCount l =
        x.session.findCount l + (if k ≤ q then k * limit else m + k - q) := by
  intro k limit q
  obtain ⟨y, hy, hnotes, hrest⟩ := ending_late_counts hl hlines hlate hattempts
  refine ⟨y, hy, hnotes, ?_, hrest⟩
  have herrors := verificationErrors_ending lines x
  have hmap : ((passage lines x).filterMap fun p => note? p.1 p.2) =
      ((passage lines x).map fun p => note? p.1 p.2).filterMap id := by
    rw [List.filterMap_map]
    rfl
  rw [hy, hmap, hnotes, filterMap_timeouts] at herrors
  exact herrors

/-- Waits of two attempts for an element with three misses: the first wait times out, the second
finds the element with its second attempt, the third with its first. -/
theorem ending_late_third :
    let options : Options := { Options.standard with poll := ⟨0, 2⟩ }
    let session := Session.empty.add (.id "late") (.ofTag "p") 3
    let x := Replay.ready ⟨"S", "f", "t"⟩ options session none
    let lines := List.replicate 3 (⟨"waitForElementPresent", "id=late", ""⟩ : Line)
    ∃ y, ending lines x = .ok () y ∧ y.verificationErrors = ["timeout after 2 attempts"] ∧
      y.session.pending? (.id "late") = some 0 ∧ y.session.findCalls = 5 := by
  intro options session x lines
  have hwaits : Command.WaitsFor .present "waitForElementPresent" :=
    ⟨("waitForElementPresent", .present), by decide, rfl, "waitForElementPresent", by decide, rfl⟩
  have hlines : ∀ line ∈ lines, AwaitsAt (.id "late") line x := by
    intro line hline
    rw [List.eq_of_mem_replicate hline]
    exact ⟨hwaits, by decide +kernel⟩
  have hlate : Late (.id "late") 3 x.session := ⟨rfl, by decide +kernel⟩
  obtain ⟨y, hy, -, herrors, hpending, hcalls, -⟩ := ending_late rfl hlines hlate (by decide)
  exact ⟨y, hy, herrors.trans (by decide +kernel), hpending, hcalls.trans (by decide +kernel)⟩

end Selenese.Replay
