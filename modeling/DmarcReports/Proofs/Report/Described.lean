import DmarcReports.Proofs.Report.Values

/-!
Reports that a document describes.

A report is described by its values where each of them is what stands at its place in the document,
or the default of its own.
-/

set_option autoImplicit false
set_option relaxedAutoImplicit false

namespace DmarcReports

open Xml (Node)
open Text (Signed Unsigned)
open Report (Gives)

def orDefault (default value : String) : String :=
  if value = "" then default else value

def ifFilled (value : String) : Option String :=
  if value = "" then none else some value

structure Metadata.DescribedBy (root : Node) (m : Metadata) : Prop where
  reportId : m.reportId = root.value ["report_metadata", "report_id"]
  orgName : m.orgName = root.value ["report_metadata", "org_name"]
  contactEmail : m.contactEmail = root.value ["report_metadata", "email"]
  beginTime : Gives Signed 0 (root.value ["report_metadata", "date_range", "begin"])
    m.beginTime.toInt
  endTime : Gives Signed 0 (root.value ["report_metadata", "date_range", "end"]) m.endTime.toInt

structure Policy.DescribedBy (root : Node) (policy : Policy) : Prop where
  domain : policy.domain = root.value ["policy_published", "domain"]
  adkim : policy.adkim = orDefault "r" (root.value ["policy_published", "adkim"])
  aspf : policy.aspf = orDefault "r" (root.value ["policy_published", "aspf"])
  requested : policy.p = orDefault "none" (root.value ["policy_published", "p"])
  sp : policy.sp = ifFilled (root.value ["policy_published", "sp"])
  pct : Gives Unsigned 100 (root.value ["policy_published", "pct"]) policy.pct.toNat

structure AuthResult.DescribedBy (withSelector : Bool) (n : Node) (a : AuthResult) : Prop where
  domain : a.domain = n.value ["domain"]
  result : a.result = Text.lowercase (n.value ["result"])
  selector : a.selector = if withSelector then ifFilled (n.value ["selector"]) else none

structure Record.DescribedBy (n : Node) (r : Record) : Prop where
  sourceIp : r.sourceIp = n.value ["row", "source_ip"]
  count : Gives Unsigned 0 (n.value ["row", "count"]) r.count.toNat
  disposition : r.disposition =
    Text.lowercase (orDefault "none" (n.value ["row", "policy_evaluated", "disposition"]))
  dkimResult : r.dkimResult = Text.lowercase (n.value ["row", "policy_evaluated", "dkim"])
  spfResult : r.spfResult = Text.lowercase (n.value ["row", "policy_evaluated", "spf"])
  headerFrom : r.headerFrom = n.value ["identifiers", "header_from"]
  spf : List.Forall₂ (AuthResult.DescribedBy false) (n.elements ["auth_results"] "spf") r.spf
  dkim : List.Forall₂ (AuthResult.DescribedBy true) (n.elements ["auth_results"] "dkim") r.dkim

namespace Report

/-- That these are the values of the report, with one record for every record element, in their
order. -/
structure DescribedBy (root : Node) (r : Report) : Prop where
  metadata : r.metadata.DescribedBy root
  policy : r.policy.DescribedBy root
  records : List.Forall₂ Record.DescribedBy (root.named "record") r.records

section Stages

variable {root n : Node} {e : Rejection}

private theorem time_eq_ok_iff {n : Option Node} {name : String} {t : Int64} :
    numberOf Text.int64? n name 0 = .ok t ↔ Gives Signed 0 (textOf n name) t.toInt :=
  numberOf_eq_ok_iff (fun _ _ => Text.int64?_eq_some_iff) fun _ _ => Int64.toInt_inj.mp

private theorem share_eq_ok_iff {n : Option Node} {name : String} {s : UInt32} :
    numberOf Text.uint32? n name 100 = .ok s ↔ Gives Unsigned 100 (textOf n name) s.toNat :=
  numberOf_eq_ok_iff (fun _ _ => Text.uint32?_eq_some_iff) fun _ _ => UInt32.toNat_inj.mp

private theorem count_eq_ok_iff {n : Option Node} {name : String} {c : UInt64} :
    numberOf Text.uint64? n name 0 = .ok c ↔ Gives Unsigned 0 (textOf n name) c.toNat :=
  numberOf_eq_ok_iff (fun _ _ => Text.uint64?_eq_some_iff) fun _ _ => UInt64.toNat_inj.mp

private theorem time_eq_error_iff {n : Option Node} {name : String} :
    numberOf Text.int64? n name 0 = .error e ↔
      e = .invalidNumber ∧ ¬∃ t : Int64, Gives Signed 0 (textOf n name) t.toInt :=
  numberOf_eq_error_iff (fun _ _ => Text.int64?_eq_some_iff) fun _ _ => Int64.toInt_inj.mp

private theorem share_eq_error_iff {n : Option Node} {name : String} :
    numberOf Text.uint32? n name 100 = .error e ↔
      e = .invalidNumber ∧ ¬∃ s : UInt32, Gives Unsigned 100 (textOf n name) s.toNat :=
  numberOf_eq_error_iff (fun _ _ => Text.uint32?_eq_some_iff) fun _ _ => UInt32.toNat_inj.mp

private theorem count_eq_error_iff {n : Option Node} {name : String} :
    numberOf Text.uint64? n name 0 = .error e ↔
      e = .invalidNumber ∧ ¬∃ c : UInt64, Gives Unsigned 0 (textOf n name) c.toNat :=
  numberOf_eq_error_iff (fun _ _ => Text.uint64?_eq_some_iff) fun _ _ => UInt64.toNat_inj.mp

theorem metadataOf_eq_ok_iff {m : Metadata} :
    metadataOf (root.child? "report_metadata") = .ok m ↔ m.DescribedBy root := by
  unfold metadataOf
  simp only [bind_eq_ok_iff, time_eq_ok_iff, pure, Except.pure, Except.ok.injEq]
  constructor
  · rintro ⟨b, hb, t, ht, rfl⟩
    exact ⟨rfl, rfl, rfl, hb, ht⟩
  · intro h
    obtain ⟨reportId, orgName, contactEmail, beginTime, endTime⟩ := m
    obtain ⟨rfl, rfl, rfl, hbegin, hend⟩ := h
    exact ⟨beginTime, hbegin, endTime, hend, rfl⟩

theorem metadataOf_eq_error
    (h : metadataOf (root.child? "report_metadata") = .error e) :
    e = .invalidNumber ∧
      ¬((∃ t : Int64,
          Gives Signed 0 (root.value ["report_metadata", "date_range", "begin"]) t.toInt) ∧
        ∃ t : Int64,
          Gives Signed 0 (root.value ["report_metadata", "date_range", "end"]) t.toInt) := by
  unfold metadataOf at h
  simp only [bind_eq_error_iff, time_eq_error_iff, pure, Except.pure] at h
  rcases h with ⟨rfl, hbegin⟩ | ⟨b, -, ⟨rfl, hend⟩ | ⟨t, -, h⟩⟩
  · exact ⟨rfl, fun hboth => hbegin hboth.1⟩
  · exact ⟨rfl, fun hboth => hend hboth.2⟩
  · cases h

theorem policyOf_eq_ok_iff {policy : Policy} :
    policyOf (root.child? "policy_published") = .ok policy ↔
      root.value ["policy_published", "domain"] ≠ "" ∧ policy.DescribedBy root := by
  have hdomain : textOf (root.child? "policy_published") "domain" =
      root.value ["policy_published", "domain"] := rfl
  unfold policyOf
  simp only [hdomain]
  split
  · rename_i hempty
    simp [hempty, bind, Except.bind]
  · rename_i hfilled
    simp only [bind_eq_ok_iff, share_eq_ok_iff, pure, Except.pure, Except.ok.injEq]
    constructor
    · rintro ⟨s, hs, rfl⟩
      exact ⟨hfilled, rfl, rfl, rfl, rfl, rfl, hs⟩
    · rintro ⟨-, h⟩
      obtain ⟨domain, adkim, aspf, p, sp, pct⟩ := policy
      obtain ⟨rfl, rfl, rfl, rfl, rfl, hpct⟩ := h
      exact ⟨pct, hpct, rfl⟩

theorem policyOf_eq_error
    (h : policyOf (root.child? "policy_published") = .error e) :
    (e = .missingDomain ∧ root.value ["policy_published", "domain"] = "") ∨
      e = .invalidNumber ∧ root.value ["policy_published", "domain"] ≠ "" ∧
        ¬∃ s : UInt32, Gives Unsigned 100 (root.value ["policy_published", "pct"]) s.toNat := by
  have hdomain : textOf (root.child? "policy_published") "domain" =
      root.value ["policy_published", "domain"] := rfl
  unfold policyOf at h
  simp only [hdomain] at h
  split at h
  · rename_i hempty
    left
    simpa [bind, Except.bind, hempty, eq_comm] using h
  · rename_i hfilled
    right
    simp only [bind_eq_error_iff, share_eq_error_iff, pure, Except.pure] at h
    rcases h with ⟨rfl, hshare⟩ | ⟨s, -, h⟩
    · exact ⟨rfl, hfilled, hshare⟩
    · cases h

private theorem authResultOf_eq_iff {withSelector : Bool} {a : AuthResult} :
    authResultOf withSelector n = a ↔ a.DescribedBy withSelector n := by
  constructor
  · rintro rfl
    exact ⟨rfl, rfl, rfl⟩
  · intro h
    obtain ⟨domain, result, selector⟩ := a
    obtain ⟨rfl, rfl, rfl⟩ := h
    rfl

theorem map_authResultOf_eq_iff {withSelector : Bool} {ns : List Node} {as : List AuthResult} :
    ns.map (authResultOf withSelector) = as ↔
      List.Forall₂ (AuthResult.DescribedBy withSelector) ns as := by
  simp only [← List.forall₂_eq_eq_eq, List.forall₂_map_left_iff, authResultOf_eq_iff]

theorem recordOf_eq_ok_iff {r : Record} : recordOf n = .ok r ↔ r.DescribedBy n := by
  unfold recordOf
  simp only [bind_eq_ok_iff, count_eq_ok_iff, pure, Except.pure, Except.ok.injEq]
  constructor
  · rintro ⟨c, hc, rfl⟩
    exact ⟨rfl, hc, rfl, rfl, rfl, rfl, map_authResultOf_eq_iff.mp rfl,
      map_authResultOf_eq_iff.mp rfl⟩
  · intro h
    obtain ⟨sourceIp, count, disposition, dkimResult, spfResult, headerFrom, spf, dkim⟩ := r
    obtain ⟨rfl, hcount, rfl, rfl, rfl, rfl, hspf, hdkim⟩ := h
    obtain rfl := map_authResultOf_eq_iff.mpr hspf
    obtain rfl := map_authResultOf_eq_iff.mpr hdkim
    exact ⟨count, hcount, rfl⟩

theorem recordOf_eq_error (h : recordOf n = .error e) :
    e = .invalidNumber ∧
      ¬∃ c : UInt64, Gives Unsigned 0 (n.value ["row", "count"]) c.toNat := by
  unfold recordOf at h
  simp only [bind_eq_error_iff, count_eq_error_iff, pure, Except.pure] at h
  rcases h with h | ⟨c, -, h⟩
  · exact h
  · cases h

/-- What is accepted is what the document describes. -/
theorem describedBy_of_ofNode {r : Report} (h : ofNode root = .ok r) : r.DescribedBy root := by
  obtain ⟨hmetadata, hpolicy, hrecords, -⟩ := ofNode_eq_ok_iff.mp h
  refine ⟨metadataOf_eq_ok_iff.mp hmetadata, (policyOf_eq_ok_iff.mp hpolicy).2, ?_⟩
  simpa only [recordOf_eq_ok_iff] using mapM_eq_ok_iff.mp hrecords

end Stages

end Report

end DmarcReports
