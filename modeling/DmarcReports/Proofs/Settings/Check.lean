import DmarcReports.Proofs.Stages
import DmarcReports.Settings.Basic

/-!
Which settings pass the check: those with ceilings between one and the standard ones, a percentage
between one and a hundred, and a level that can be read.
-/

set_option autoImplicit false
set_option relaxedAutoImplicit false

namespace DmarcReports.Settings

private theorem seq_eq_ok_iff {ε : Type} (a : Except ε Unit) (f : Unit → Except ε Unit) :
    (a >>= f) = .ok () ↔ a = .ok () ∧ f () = .ok () :=
  bind_eq_ok_iff.trans ⟨fun ⟨(), h⟩ => h, fun h => ⟨(), h⟩⟩

theorem checkCeiling_eq_ok_iff (name : String) (value ceiling : UInt64) :
    checkCeiling name value ceiling = .ok () ↔ value ≠ 0 ∧ value ≤ ceiling := by
  unfold checkCeiling
  split
  · simp_all
  · split
    · rename_i hzero hlarge
      simp [hzero, UInt64.not_le.mpr hlarge]
    · rename_i hzero hlarge
      simp [hzero, UInt64.not_lt.mp hlarge]

theorem percentage_iff (n : UInt8) : ¬(n = 0 ∨ 100 < n) ↔ n ≠ 0 ∧ n ≤ 100 := by
  rw [not_or, UInt8.not_lt]

theorem check_eq_ok_iff (s : Settings) :
    s.check = .ok () ↔
      (s.limits.maxFileSize ≠ 0 ∧ s.limits.maxUncompressedSize ≠ 0 ∧
        s.limits.maxFilesInArchive ≠ 0) ∧
      s.limits.Tighter Limits.standard ∧
      (s.ingest.threadPercentage ≠ 0 ∧ s.ingest.threadPercentage ≤ 100) ∧
      LogFilter.isValid s.logging.level = true := by
  unfold check Limits.Tighter
  rw [seq_eq_ok_iff, seq_eq_ok_iff, seq_eq_ok_iff, checkCeiling_eq_ok_iff,
    checkCeiling_eq_ok_iff, checkCeiling_eq_ok_iff, ← percentage_iff]
  by_cases hpercentage : s.ingest.threadPercentage = 0 ∨ 100 < s.ingest.threadPercentage
  · rw [if_pos hpercentage]
    constructor
    · rintro ⟨-, -, -, h⟩
      cases h
    · rintro ⟨-, -, h, -⟩
      exact absurd hpercentage h
  · rw [if_neg hpercentage]
    cases hlevel : LogFilter.isValid s.logging.level with
    | true =>
      constructor
      · rintro ⟨⟨hf, hf'⟩, ⟨hu, hu'⟩, ⟨hn, hn'⟩, -⟩
        exact ⟨⟨hf, hu, hn⟩, ⟨hf', hu', hn'⟩, hpercentage, rfl⟩
      · rintro ⟨⟨hf, hu, hn⟩, ⟨hf', hu', hn'⟩, -, -⟩
        exact ⟨⟨hf, hf'⟩, ⟨hu, hu'⟩, ⟨hn, hn'⟩, rfl⟩
    | false =>
      constructor
      · rintro ⟨-, -, -, h⟩
        cases h
      · rintro ⟨-, -, -, h⟩
        cases h

end DmarcReports.Settings
