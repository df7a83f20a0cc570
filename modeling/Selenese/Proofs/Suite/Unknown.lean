import Selenese.Proofs.Suite.Dry
import Selenese.Proofs.Suite.Verdict

/-!
# Selenese.Proofs.Suite.Unknown

Unknown commands in dry runs and in live runs.

* `StopsAt lines i l`: the line `l` at the position `i` is the first with an unknown command.
* `StopsAt.dryScript_eq`: there a dry run stops.
* `Replay.ending_known`: lines with known commands end in no unknown command.
  `StopsAt.ending_eq`: so a live run that gets to the first unknown command ends there.
* `countP_unknown_le`: live runs end at unknown commands no more often than dry runs stop.
* `live_stops_as_dry`: the two kinds of runs agree on unknown commands.
-/

namespace Selenese

open Suite (allKnown)

namespace Replay

theorem Ends.known {l : Line} {x : Replay} {out : EStateM.Result Fault Replay Unit}
    (h : Ends l x out) (hl : Command.isKnown l.command = true) {f : Fault}
    (hf : errorOf? out = some f) : f.isUnknownCommand = false := by
  cases h with
  | unknown hb => simp [Command.isKnown, hb] at hl
  | done | passed | soft => cases hf
  | fatal =>
    cases hf
    rfl
  | @broken b c f' hb hx hs =>
    cases hf
    cases f' <;> rfl

theorem ending_known {lines : List Line} {x : Replay} (h : allKnown lines = true) {f : Fault}
    (hf : errorOf? (ending lines x) = some f) : f.isUnknownCommand = false := by
  induction lines generalizing x with
  | nil => cases hf
  | cons l rest ih =>
    obtain ⟨hl, hrest⟩ := Bool.and_eq_true_iff.1 h
    rw [ending_cons] at hf
    cases hx : executeLine l x with
    | ok u x' =>
      rw [hx] at hf
      exact ih hrest hf
    | error f' x' =>
      rw [hx] at hf
      refine (executeLine_ends l x).known hl ?_
      rw [hx]
      exact hf

theorem run_known {s : Script} {x : Replay} (h : allKnown s.lines = true) {f : Fault}
    (hf : errorOf? (run s x) = some f) : f.isUnknownCommand = false :=
  ending_known h ((errorOf?_finish _).symm.trans hf)

end Replay

namespace Suite

open Report (Event writeAll told)
open Replay (ending finish run)

/-! ## The first unknown command -/

structure StopsAt (lines : List Line) (i : Nat) (l : Line) : Prop where
  line : lines[i]? = some l
  unknown : Command.isKnown l.command = false
  known : allKnown (lines.take i) = true

theorem allKnown_iff {lines : List Line} :
    allKnown lines = true ↔ ∀ l ∈ lines, Command.isKnown l.command = true := List.all_eq_true

theorem exists_stopsAt {lines : List Line} (h : allKnown lines = false) :
    ∃ i l, StopsAt lines i l := by
  induction lines with
  | nil => cases h
  | cons l rest ih =>
    cases hl : Command.isKnown l.command with
    | false => exact ⟨0, l, rfl, hl, rfl⟩
    | true =>
      rw [allKnown, List.all_cons, hl, Bool.true_and] at h
      obtain ⟨i, l', hstop⟩ := ih h
      refine ⟨i + 1, l', hstop.line, hstop.unknown, ?_⟩
      rw [List.take_succ_cons, allKnown, List.all_cons, hl, Bool.true_and]
      exact hstop.known

namespace StopsAt

variable {lines : List Line} {i : Nat} {l : Line} (h : StopsAt lines i l)
include h

theorem split : lines = lines.take i ++ l :: lines.drop (i + 1) := by
  obtain ⟨hi, hline⟩ := List.getElem?_eq_some_iff.1 h.line
  rw [← hline, ← List.drop_eq_getElem_cons hi, List.take_append_drop]

theorem allKnown_eq : allKnown lines = false := by
  rw [h.split, allKnown, List.all_append, List.all_cons, h.unknown, Bool.false_and, Bool.and_false]

theorem lookedAt_eq : lookedAt lines = List.replicate i .passed ++ [.invalid] := by
  have hlength : (lines.take i).length = i := by
    obtain ⟨hi, _⟩ := List.getElem?_eq_some_iff.1 h.line
    exact List.length_take_of_le (Nat.le_of_lt hi)
  have hknown : knownLines lines = lines.take i := by
    have htake : knownLines (lines.take i ++ l :: lines.drop (i + 1)) = lines.take i := by
      rw [knownLines, List.takeWhile_append_of_pos (allKnown_iff.1 h.known),
        List.takeWhile_cons_of_neg (by simp [h.unknown]), List.append_nil]
    rwa [← h.split] at htake
  rw [lookedAt, h.allKnown_eq, hknown, hlength]
  rfl

theorem dryScript_eq (d : TestId) {s : Script} (hs : s.lines = lines) (r : Report) :
    dryScript d s r = (false,
      writeAll (told d r.clock (.begun :: (List.replicate i .passed ++ [.invalid]))) r) := by
  rw [Suite.dryScript_eq, dryEvents, hs, h.allKnown_eq, h.lookedAt_eq]

/-- The lines before the first unknown command are run, and if they end well, it is found. -/
theorem ending_eq (x : Replay) :
    ending lines x =
      match ending (lines.take i) x with
      | .ok () x' => .error (.unsupportedCommand l.command) x'
      | .error f x' => .error f x' := by
  have hunknown : Command.lookup? l.command = none := by
    simpa [Command.isKnown] using h.unknown
  have hline (x' : Replay) :
      Replay.executeLine l x' = .error (.unsupportedCommand l.command) x' :=
    (Replay.Ends.unknown hunknown).eq
  have hsplit := Replay.ending_append (lines.take i) (l :: lines.drop (i + 1)) x
  rw [← h.split] at hsplit
  rw [hsplit]
  cases ending (lines.take i) x with
  | ok u x' =>
    dsimp only
    rw [Replay.ending_cons, hline]
  | error f x' => rfl

end StopsAt

/-! ## Runs of tests -/

theorem Course.unknown_of {options : Options} {d : TestId} {s : Script}
    {opened : Except SessionError Session}
    (h : (Course.of options d s opened).fault.any Fault.isUnknownCommand = true) :
    allKnown s.lines = false := by
  cases opened with
  | error e => cases h
  | ok session =>
    obtain ⟨f, hf, hunknown⟩ := (Option.any_eq_true _ _).1 h
    refine Bool.eq_false_iff.2 fun hknown => ?_
    rw [Replay.run_known hknown hf] at hunknown
    cases hunknown

theorem invalid_foldl_count (cs : List (TestId × Course)) (s : Summary) :
    (cs.foldl (fun s c => s.count c.2.fault) s).invalid =
      s.invalid + cs.countP fun c => c.2.fault.any Fault.isUnknownCommand := by
  induction cs generalizing s with
  | nil => rfl
  | cons c rest ih =>
    rw [List.foldl_cons, ih, List.countP_cons, Summary.count]
    dsimp only
    omega

section

variable {σ : Type} (openSession : String → StateM σ (Except SessionError Session))

theorem countP_unknown_le (options : Options) (tests : List (TestId × Script)) (t : σ) :
    (courses openSession options tests t).countP (fun c => c.2.fault.any Fault.isUnknownCommand) ≤
      tests.countP fun p => !allKnown p.2.lines := by
  induction tests generalizing t with
  | nil => exact Nat.le_refl _
  | cons test rest ih =>
    obtain ⟨d, s⟩ := test
    rw [courses, List.countP_cons, List.countP_cons]
    refine Nat.add_le_add (ih _) ?_
    by_cases h :
        (Course.of options d s (openSession d.fixture t).1).fault.any Fault.isUnknownCommand = true
    · simp [h, Course.unknown_of h]
    · simp [h]

/-- **Dry runs and live runs agree on unknown commands.** A dry run of a script says yes exactly if
all its commands are known. If a live run ends in an unknown command, the dry run says no, and the
command is that of the line at which it stops. If a dry run stops at a line, having counted the
lines before it, then a live run of the script, from whatever session and with whatever options,
ends at one of those lines with another fault; or it gets through all of them, and ends at that line
in the state in which they left it, so that no call is made for that line or a later one. So a live
run of a suite has at most as many invalid runs as a dry run with the same settings, and none if the
dry run has none. -/
theorem live_stops_as_dry :
    (∀ d s r, (dryScript d s r).1 = true ↔ ∀ l ∈ s.lines, Command.isKnown l.command = true) ∧
      (∀ d s r x command, errorOf? (run s x) = some (.unsupportedCommand command) →
        (dryScript d s r).1 = false ∧ ∃ i l, StopsAt s.lines i l ∧ l.command = command) ∧
      (∀ d s r i l, StopsAt s.lines i l →
        dryScript d s r = (false,
            writeAll (told d r.clock (.begun :: (List.replicate i .passed ++ [.invalid]))) r) ∧
          ∀ x : Replay,
            (∃ f x', ending (s.lines.take i) (x.begin s) = .error f x' ∧
              f.isUnknownCommand = false ∧ run s x = finish (.error f x')) ∨
            ∃ x', ending (s.lines.take i) (x.begin s) = .ok () x' ∧
              run s x = finish (.error (.unsupportedCommand l.command) x')) ∧
      ∀ (read read' : String → StateM σ (Except FileError String)) settings path loaded
        (t t' t₀ t₀' : σ) (r r' : Report),
        load read settings path t = (.ok loaded, t₀) →
        load read' settings path t' = (.ok loaded, t₀') →
        ∃ summary u x t₁, dryRun read settings path r t = (.ok (summary, u), t₀) ∧
          liveRun read' settings openSession path r' t' = (.ok x, t₁) ∧
          x.summary.invalid ≤ summary.invalid ∧ (summary.invalid = 0 → x.summary.invalid = 0) := by
  refine ⟨?_, ?_, ?_, ?_⟩
  · intro d s r
    rw [Suite.dryScript_eq]
    exact allKnown_iff
  · intro d s r x command h
    have hunknown : allKnown s.lines = false := Bool.eq_false_iff.2 fun hknown => by
      cases Replay.run_known hknown h
    obtain ⟨i, l, hstop⟩ := exists_stopsAt hunknown
    refine ⟨by rw [Suite.dryScript_eq]; exact hunknown, i, l, hstop, ?_⟩
    rw [Replay.run_eq, Replay.errorOf?_finish, hstop.ending_eq] at h
    cases hbefore : ending (s.lines.take i) (x.begin s) with
    | ok u x' =>
      rw [hbefore] at h
      cases h
      rfl
    | error f x' =>
      -- the lines before have known commands, and so another fault
      rw [hbefore] at h
      have hfault : errorOf? (ending (s.lines.take i) (x.begin s)) =
          some (.unsupportedCommand command) := by
        rw [hbefore]
        exact h
      cases Replay.ending_known hstop.known hfault
  · intro d s r i l hstop
    refine ⟨hstop.dryScript_eq d rfl r, fun x => ?_⟩
    rw [Replay.run_eq, hstop.ending_eq]
    cases hbefore : ending (s.lines.take i) (x.begin s) with
    | ok u x' => exact .inr ⟨x', rfl, rfl⟩
    | error f x' =>
      refine .inl ⟨f, x', rfl, Replay.ending_known (x := x.begin s) hstop.known ?_, rfl⟩
      rw [hbefore]
      rfl
  · intro read read' settings path loaded t t' t₀ t₀' r r' hload hload'
    have hle : (liveTests settings.options openSession (tests settings (nameOf path) loaded.entries)
        ⟨loaded.summary, r', []⟩ t₀').1.summary.invalid ≤
        (dryTests (tests settings (nameOf path) loaded.entries) loaded.summary r).1.invalid := by
      rw [(liveTests_courses openSession settings.options _ _ t₀').1, invalid_foldl_count,
        dryTests_eq]
      exact Nat.add_le_add_left (countP_unknown_le openSession settings.options _ t₀') _
    refine ⟨_, _, _, _, dryRun_loaded hload r, liveRun_loaded openSession hload' r', hle, ?_⟩
    intro hzero
    exact Nat.eq_zero_of_le_zero (hzero ▸ hle)

end

/-- The title of an empty page is looked at, and then the second command is unknown. -/
theorem live_stops_as_dry_drag :
    let s : Script := ⟨"Home", "", [⟨"verifyTitle", "Home", ""⟩, ⟨"dragAndDrop", "", ""⟩]⟩
    let x : Replay := .ready ⟨"shop", "en", "home"⟩ .standard .empty none
    StopsAt s.lines 1 ⟨"dragAndDrop", "", ""⟩ ∧
      ∃ x', ending (s.lines.take 1) (x.begin s) = .ok () x' ∧
        run s x = finish (.error (.unsupportedCommand "dragAndDrop") x') := by
  intro s x
  have hdrag : Command.lookup? "dragAndDrop" = none := by
    rw [Command.lookup?_ascii (Text.isAscii_of_all (by decide))]
    decide +kernel
  have hstop : StopsAt s.lines 1 ⟨"dragAndDrop", "", ""⟩ :=
    ⟨rfl, by rw [Command.isKnown, hdrag]; rfl, by decide +kernel⟩
  have hends : errorOf? (ending (s.lines.take 1) (x.begin s)) = none := by decide +kernel
  obtain ⟨_, _, hstops, _⟩ :=
    live_stops_as_dry fun _ => (pure (.ok .empty) : StateM Unit (Except SessionError Session))
  let report := Report.create "Shop" ⟨"2024-05-01", "12:00:00"⟩
    (.capture ⟨"linux", "x64", "/", "host"⟩ fun _ => none)
  refine ⟨hstop, ?_⟩
  rcases (hstops x.test s report 1 _ hstop).2 x with ⟨f, x', hbefore, _⟩ | hfound
  · rw [hbefore] at hends
    cases hends
  · exact hfound

end Suite

end Selenese
