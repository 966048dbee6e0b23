import DmarcReports.Proofs.Report.Accepted
import DmarcReports.Proofs.Tally

/-!
Two ways to make a report of its parts: with counts that saturate, and with counts that are checked.

They differ only where the messages of all records together do not fit into a word. There the first
way cuts the counts off, and the second one refuses the report; otherwise both come to the same.
-/

set_option autoImplicit false
set_option relaxedAutoImplicit false

namespace DmarcReports

namespace Tally

/-- That a tally counts every message of these records, so nothing was cut off. -/
structure Exact (t : Tally) (rs : List Record) : Prop where
  total : t.total.toNat = Count.exactSum (rs.map Record.count)
  passed : t.passed.toNat = Count.exactSum ((rs.filter Record.passed).map Record.count)

variable {rs : List Record}

private theorem exact_ofRecords_iff :
    (ofRecords rs).Exact rs ↔ Count.exactSum (rs.map Record.count) < UInt64.size := by
  constructor
  · intro h
    have htotal := (ofRecords rs).total.toNat_lt
    rw [h.total] at htotal
    exact htotal
  · intro h
    exact ⟨toNat_total_of_lt h, toNat_passed_of_lt h⟩

/-- The messages that passed are some of all messages, so their sum fits where that of all does. -/
private theorem isSome_checkedSum_passedCounts
    (h : (Count.checkedSum (rs.map Record.count)).isSome = true) :
    (Count.checkedSum (passedCounts rs)).isSome = true := by
  rw [Count.isSome_checkedSum_iff] at h ⊢
  have hle := exactSum_passedCounts_le rs
  omega

private theorem isSome_ofRecords?_eq :
    (ofRecords? rs).isSome = (Count.checkedSum (rs.map Record.count)).isSome := by
  unfold ofRecords?
  cases htotal : Count.checkedSum (rs.map Record.count) with
  | none => rfl
  | some total =>
    have hpassed : (Count.checkedSum (passedCounts rs)).isSome = true :=
      isSome_checkedSum_passedCounts (by rw [htotal]; rfl)
    obtain ⟨passed, hpassed⟩ := Option.isSome_iff_exists.mp hpassed
    rw [passedCounts] at hpassed
    simp [hpassed]

private theorem ofRecords?_eq_some_iff {t : Tally} :
    ofRecords? rs = some t ↔
      Count.exactSum (rs.map Record.count) < UInt64.size ∧ t = ofRecords rs := by
  constructor
  · intro h
    have hfits : Count.exactSum (rs.map Record.count) < UInt64.size := by
      rw [← isSome_ofRecords?_iff, h]
      rfl
    rw [ofRecords?_eq_some hfits] at h
    exact ⟨hfits, (Option.some.inj h).symm⟩
  · rintro ⟨hfits, rfl⟩
    exact ofRecords?_eq_some hfits

private theorem ofRecords?_eq_none_iff_not_exact :
    ofRecords? rs = none ↔ ¬(ofRecords rs).Exact rs := by
  rw [exact_ofRecords_iff, ← isSome_ofRecords?_iff, Option.not_isSome_iff_eq_none]

end Tally

namespace Report

variable {metadata : Metadata} {policy : Policy} {records : List Record}

private theorem assemble_eq_ok_iff_exact {r : Report} :
    assemble metadata policy records = .ok r ↔
      r = new metadata policy records ∧ r.tally.Exact records := by
  rw [assemble_eq_ok_iff, Tally.isSome_ofRecords?_iff, ← Tally.exact_ofRecords_iff]
  constructor
  · rintro ⟨hexact, rfl⟩
    exact ⟨rfl, hexact⟩
  · rintro ⟨rfl, hexact⟩
    exact ⟨hexact, rfl⟩

private theorem assemble_eq_error_iff {e : Rejection} :
    assemble metadata policy records = .error e ↔
      e = countOverflow ∧ Tally.ofRecords? records = none := by
  cases h : Tally.ofRecords? records with
  | none => simp [assemble_of_none h, eq_comm]
  | some t => simp [assemble_of_some h]

/-- Checked counts exist just when all messages together fit into a word, whatever share of them
passed, and they are the saturating ones then. So a report is refused for its counts just when its
saturating counts are cut off, and otherwise it is the same report with the same counts. -/
theorem assemble_by_counts (metadata : Metadata) (policy : Policy) (records : List Record) :
    (∀ t, Tally.ofRecords? records = some t ↔
        Count.exactSum (records.map Record.count) < UInt64.size ∧ t = Tally.ofRecords records) ∧
      (Tally.ofRecords? records).isSome =
        (Count.checkedSum (records.map Record.count)).isSome ∧
      (Tally.ofRecords records).Counts records ∧
      (∀ r, assemble metadata policy records = .ok r ↔
        r = new metadata policy records ∧ r.tally.Exact records) ∧
      (∀ r, assemble metadata policy records = .ok r →
        Tally.ofRecords? records = some r.tally) ∧
      ∀ e, assemble metadata policy records = .error e ↔
        e = .malformedXml "message count out of range" ∧
          ¬(new metadata policy records).tally.Exact records := by
  refine ⟨fun t => Tally.ofRecords?_eq_some_iff, Tally.isSome_ofRecords?_eq,
    Tally.counts_ofRecords records, fun r => assemble_eq_ok_iff_exact, ?_, ?_⟩
  · intro r hr
    obtain ⟨rfl, hexact⟩ := assemble_eq_ok_iff_exact.mp hr
    have hfits := Tally.exact_ofRecords_iff.mp hexact
    exact Tally.ofRecords?_eq_some hfits
  · intro e
    rw [assemble_eq_error_iff, Tally.ofRecords?_eq_none_iff_not_exact]
    exact Iff.rfl

end Report

end DmarcReports
