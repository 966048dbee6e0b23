import DmarcReports.Proofs.Xml.Parts
import DmarcReports.Report.Decode

/-!
What a report that is accepted was read from.
-/

set_option autoImplicit false
set_option relaxedAutoImplicit false

namespace DmarcReports.Report

open Xml (Node)

theorem assemble_eq_ok_iff {metadata : Metadata} {policy : Policy} {records : List Record}
    {r : Report} :
    assemble metadata policy records = .ok r ↔
      (Tally.ofRecords? records).isSome = true ∧ r = new metadata policy records := by
  cases h : Tally.ofRecords? records with
  | none => simp [assemble_of_none h]
  | some t => simp [assemble_of_some h, eq_comm]

theorem ofNode_eq_ok_iff {root : Node} {r : Report} :
    ofNode root = .ok r ↔
      metadataOf (root.child? "report_metadata") = .ok r.metadata ∧
        policyOf (root.child? "policy_published") = .ok r.policy ∧
        (root.named "record").mapM recordOf = .ok r.records ∧
        (Tally.ofRecords? r.records).isSome = true := by
  unfold ofNode
  simp only [bind_eq_ok_iff, assemble_eq_ok_iff]
  constructor
  · rintro ⟨metadata, hmetadata, policy, hpolicy, records, hrecords, htally, rfl⟩
    exact ⟨hmetadata, hpolicy, hrecords, htally⟩
  · rintro ⟨hmetadata, hpolicy, hrecords, htally⟩
    exact ⟨r.metadata, hmetadata, r.policy, hpolicy, r.records, hrecords, htally, r.eq_new⟩

private theorem domain_of_policyOf {n : Option Node} {p : Policy} (h : policyOf n = .ok p) :
    p.domain = textOf n "domain" ∧ p.domain ≠ "" := by
  unfold policyOf at h
  by_cases hempty : textOf n "domain" = ""
  · rw [if_pos hempty, bind_eq_ok_iff] at h
    obtain ⟨_, herror, -⟩ := h
    cases herror
  · rw [if_neg hempty, bind_eq_ok_iff] at h
    obtain ⟨pct, -, hp⟩ := h
    obtain rfl := Except.ok.inj hp
    exact ⟨rfl, hempty⟩

theorem decode_eq_ofNode {bytes : ByteArray} {s : String} {root : Node}
    (htext : String.fromUTF8? bytes = some s)
    (hdocument : Xml.document maxNodes (Xml.dropMark s.toList) = .ok root) :
    decode bytes = ofNode root := by
  rw [decode, htext]
  simp only [ofText, hdocument]

theorem decode_eq_ok_iff {bytes : ByteArray} {r : Report} :
    decode bytes = .ok r ↔
      ∃ s root, String.fromUTF8? bytes = some s ∧
        Xml.document maxNodes (Xml.dropMark s.toList) = .ok root ∧ ofNode root = .ok r := by
  unfold decode ofText
  cases String.fromUTF8? bytes with
  | none => simp
  | some s =>
    cases hdocument : Xml.document maxNodes (Xml.dropMark s.toList) with
    | error fault => simp [hdocument]
    | ok root => simp [hdocument]

theorem domain_ne_empty_of_decode {bytes : ByteArray} {r : Report} (h : decode bytes = .ok r) :
    r.domain ≠ "" := by
  obtain ⟨s, root, -, -, hroot⟩ := decode_eq_ok_iff.mp h
  obtain ⟨-, hpolicy, -, -⟩ := ofNode_eq_ok_iff.mp hroot
  exact (domain_of_policyOf hpolicy).2

end DmarcReports.Report
