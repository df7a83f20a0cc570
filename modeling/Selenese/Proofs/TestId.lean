import Selenese.Script

/-!
# Selenese.Proofs.TestId

When two names stand for one test.

* `TestId.SameAs`: suite, fixture and test agree up to the case of ASCII letters; an equivalence.
* `TestId.sameAs_iff`: it is enough that the suite segments after the first, the fixture and the
  full path agree. A report compares no more than these. The first segment is read off the full
  path, since a segment has no dot; with it the whole suite is known, and what is left of the full
  path is the test.
-/

namespace Selenese

namespace Text

theorem splitOn_eq (sep : Char) (l : List Char) : splitOn sep l = l.splitOn sep := by
  induction l with
  | nil => rfl
  | cons c r ih =>
    rw [splitOn, ih, List.splitOn_cons_eq_if_modifyHead]
    cases h : r.splitOn sep with
    | nil => exact absurd h (List.splitOn_ne_nil sep r)
    | cons p ps => simp only [beq_iff_eq, List.modifyHead_cons]

theorem toLower_eq_dot {c : Char} : c.toLower = '.' ↔ c = '.' := by
  constructor
  · intro h
    unfold Char.toLower at h
    split at h
    · rename_i hc
      have hv : c.val + 32 = 46 := congrArg Char.val h
      have hlo : 65 ≤ c.val := hc.1
      have hhi : c.val ≤ 90 := hc.2
      have := congrArg UInt32.toNat hv
      simp only [UInt32.le_iff_toNat_le, UInt32.toNat_add, UInt32.reduceToNat] at this hlo hhi
      omega
    · exact h
  · rintro rfl; rfl

theorem splitOn_map_toLower (l : List Char) :
    (l.map Char.toLower).splitOn '.' = (l.splitOn '.').map (List.map Char.toLower) := by
  induction l with
  | nil => rfl
  | cons c r ih =>
    rw [List.map_cons, List.splitOn_cons_eq_if_modifyHead, List.splitOn_cons_eq_if_modifyHead, ih]
    cases h : r.splitOn '.' with
    | nil => exact absurd h (List.splitOn_ne_nil _ r)
    | cons p ps =>
      by_cases hc : c = '.'
      · simp [hc]
      · simp [hc, toLower_eq_dot]

theorem foldAscii_append (a b : String) : foldAscii (a ++ b) = foldAscii a ++ foldAscii b := by
  simp [foldAscii]

theorem sameIgnoringCase_iff {a b : String} :
    sameIgnoringCase a b = true ↔ foldAscii a = foldAscii b := by
  simp [sameIgnoringCase]

end Text

namespace TestId

open Text

/-- Two names of one test, up to the case of ASCII letters. -/
def SameAs (d e : TestId) : Prop :=
  sameIgnoringCase d.suite e.suite ∧ sameIgnoringCase d.fixture e.fixture ∧
    sameIgnoringCase d.test e.test

instance (d e : TestId) : Decidable (d.SameAs e) := inferInstanceAs (Decidable (_ ∧ _))

theorem SameAs.refl (d : TestId) : d.SameAs d := by simp [SameAs, sameIgnoringCase]

theorem SameAs.symm {d e : TestId} (h : d.SameAs e) : e.SameAs d := by
  simp only [SameAs, sameIgnoringCase_iff] at h ⊢
  exact ⟨h.1.symm, h.2.1.symm, h.2.2.symm⟩

theorem SameAs.trans {d e f : TestId} (h : d.SameAs e) (h' : e.SameAs f) : d.SameAs f := by
  simp only [SameAs, sameIgnoringCase_iff] at h h' ⊢
  exact ⟨h.1.trans h'.1, h.2.1.trans h'.2.1, h.2.2.trans h'.2.2⟩

theorem sameAs_equivalence : Equivalence SameAs := ⟨.refl, .symm, .trans⟩

/-- What names of one test have in common. -/
def key (d : TestId) : List Char × List Char × List Char :=
  (foldAscii d.suite, foldAscii d.fixture, foldAscii d.test)

theorem key_eq_iff {d e : TestId} : d.key = e.key ↔ d.SameAs e := by
  simp only [key, Prod.mk.injEq, SameAs, sameIgnoringCase_iff]

theorem segments_fold (d : TestId) :
    d.segments.map foldAscii = (foldAscii d.suite).splitOn '.' := by
  have h : foldAscii ∘ String.ofList = List.map Char.toLower := by funext l; simp [foldAscii]
  rw [segments, split, List.map_map, h, splitOn_eq, foldAscii, splitOn_map_toLower]

theorem fullPath_fold (d : TestId) :
    foldAscii d.fullPath =
      foldAscii d.suite ++ '.' :: (foldAscii d.fixture ++ '.' :: foldAscii d.test) := by
  have dot : foldAscii "." = ['.'] := rfl
  simp [fullPath, foldAscii_append, dot]

/-- Names with the same full path and the same later segments have the same first segment. -/
theorem suite_fold_eq {d e : TestId}
    (ht : (d.segments.drop 1).map foldAscii = (e.segments.drop 1).map foldAscii)
    (hp : foldAscii d.fullPath = foldAscii e.fullPath) : foldAscii d.suite = foldAscii e.suite := by
  rw [List.map_drop, List.map_drop, segments_fold, segments_fold] at ht
  have hs := congrArg (List.splitOn '.') hp
  simp only [fullPath_fold, List.splitOn_append_cons_self] at hs
  cases hd : (foldAscii d.suite).splitOn '.' with
  | nil => exact absurd hd (List.splitOn_ne_nil _ _)
  | cons a as =>
    cases he : (foldAscii e.suite).splitOn '.' with
    | nil => exact absurd he (List.splitOn_ne_nil _ _)
    | cons b bs =>
      rw [hd, he] at ht hs
      have hab : a = b := (List.cons.inj hs).1
      have hseg : (foldAscii d.suite).splitOn '.' = (foldAscii e.suite).splitOn '.' := by
        rw [hd, he, hab]
        exact congrArg (b :: ·) ht
      calc foldAscii d.suite
        _ = ['.'].intercalate ((foldAscii d.suite).splitOn '.') :=
          (List.intercalate_splitOn '.').symm
        _ = ['.'].intercalate ((foldAscii e.suite).splitOn '.') := by rw [hseg]
        _ = foldAscii e.suite := List.intercalate_splitOn '.'

theorem sameAs_iff {d e : TestId} :
    d.SameAs e ↔ (d.segments.drop 1).map foldAscii = (e.segments.drop 1).map foldAscii ∧
      foldAscii d.fixture = foldAscii e.fixture ∧ foldAscii d.fullPath = foldAscii e.fullPath := by
  simp only [SameAs, sameIgnoringCase_iff]
  constructor
  · rintro ⟨hs, hf, ht⟩
    refine ⟨?_, hf, ?_⟩
    · rw [List.map_drop, List.map_drop, segments_fold, segments_fold, hs]
    · rw [fullPath_fold, fullPath_fold, hs, hf, ht]
  · rintro ⟨hseg, hf, hp⟩
    have hs := suite_fold_eq hseg hp
    refine ⟨hs, hf, ?_⟩
    rw [fullPath_fold, fullPath_fold, hs, hf] at hp
    exact (List.cons.inj (List.append_cancel_left (List.cons.inj (List.append_cancel_left hp)).2)).2

end TestId

end Selenese
