import DmarcReports.Proofs.Report.Described
import DmarcReports.Proofs.Report.RoundTrip

/-!
What a document has to meet to be accepted as a report.

There are five demands, checked in a fixed order, and the first one that is not met is the reason of
the rejection. Main statement: `decode_by_demands`.
-/

set_option autoImplicit false
set_option relaxedAutoImplicit false

namespace DmarcReports.Report

open Xml (Node Outline)
open Text (Signed Unsigned)

inductive Demand where
  /-- The begin and the end are numbers, where they are given. -/
  | times
  /-- A domain is given. -/
  | domain
  /-- The share of mail is a number, where it is given. -/
  | share
  /-- The message count of every record is a number, where it is given. -/
  | counts
  /-- The message counts of all records add up to a number that fits into a word. -/
  | total
deriving DecidableEq, Repr

namespace Demand

def MetBy (root : Node) : Demand → Prop
  | times =>
    (∃ t : Int64, Gives Signed 0 (root.value ["report_metadata", "date_range", "begin"]) t.toInt) ∧
      ∃ t : Int64, Gives Signed 0 (root.value ["report_metadata", "date_range", "end"]) t.toInt
  | domain => root.value ["policy_published", "domain"] ≠ ""
  | share => ∃ s : UInt32, Gives Unsigned 100 (root.value ["policy_published", "pct"]) s.toNat
  | counts => ∀ n ∈ root.named "record",
    ∃ c : UInt64, Gives Unsigned 0 (n.value ["row", "count"]) c.toNat
  | total => ∃ cs : List UInt64,
    List.Forall₂ (fun n c => Gives Unsigned 0 (n.value ["row", "count"]) c.toNat)
      (root.named "record") cs ∧ Count.exactSum cs < UInt64.size

def earlier : Demand → List Demand
  | times => []
  | domain => [times]
  | share => [times, domain]
  | counts => [times, domain, share]
  | total => [times, domain, share, counts]

def rejection : Demand → Rejection
  | times | share | counts => .malformedXml "invalid numeric field"
  | domain => .missingDomain
  | total => .malformedXml "message count out of range"

theorem eq_or_earlier (d e : Demand) : d = e ∨ d ∈ e.earlier ∨ e ∈ d.earlier := by
  cases d <;> cases e <;> decide

end Demand

variable {root : Node} {r : Report}

private theorem Gives.unique_count {text : String} {m n : Nat} (hm : Gives Unsigned 0 text m)
    (hn : Gives Unsigned 0 text n) : m = n := by
  unfold Gives at hm hn
  split at hm
  · rename_i hempty
    rw [if_pos hempty] at hn
    rw [hm, hn]
  · rename_i hfilled
    rw [if_neg hfilled] at hn
    exact hm.unique hn

private theorem counts_unique {ns : List Node} {rs : List Record} {cs : List UInt64}
    (hrecords : List.Forall₂ Record.DescribedBy ns rs)
    (hcounts : List.Forall₂
      (fun n c => Gives Unsigned 0 (n.value ["row", "count"]) c.toNat) ns cs) :
    cs = rs.map Record.count := by
  induction hrecords generalizing cs with
  | nil =>
    cases hcounts
    rfl
  | cons hr _ ih =>
    cases hcounts with
    | cons hc hcs =>
      rw [ih hcs, List.map_cons, UInt64.toNat_inj.mp (hc.unique_count hr.count)]

private theorem counts_of_described {ns : List Node} {rs : List Record}
    (h : List.Forall₂ Record.DescribedBy ns rs) :
    List.Forall₂ (fun n c => Gives Unsigned 0 (n.value ["row", "count"]) c.toNat) ns
      (rs.map Record.count) := by
  induction h with
  | nil => exact .nil
  | cons hr _ ih => exact .cons hr.count ih

private theorem exists_count_of_described {ns : List Node} {rs : List Record}
    (h : List.Forall₂ Record.DescribedBy ns rs) :
    ∀ n ∈ ns, ∃ c : UInt64, Gives Unsigned 0 (n.value ["row", "count"]) c.toNat :=
  forall_mem_left h fun _ r hr => ⟨r.count, hr.count⟩

private theorem total_metBy_iff {rs : List Record}
    (h : List.Forall₂ Record.DescribedBy (root.named "record") rs) :
    Demand.total.MetBy root ↔ (Tally.ofRecords? rs).isSome = true := by
  rw [Tally.isSome_ofRecords?_iff]
  constructor
  · rintro ⟨cs, hcs, hsum⟩
    rwa [counts_unique h hcs] at hsum
  · intro hsum
    exact ⟨_, counts_of_described h, hsum⟩

/-- Each stage of reading either goes on, where one or more demands are met, or ends with the first
demand that is not. -/
theorem ofNode_cases (root : Node) :
    (∃ r, ofNode root = .ok r ∧ ∀ d : Demand, d.MetBy root) ∨
      ∃ d : Demand, (∀ e ∈ d.earlier, e.MetBy root) ∧ ¬d.MetBy root ∧
        ofNode root = .error d.rejection := by
  unfold ofNode
  cases hmetadata : metadataOf (root.child? "report_metadata") with
  | error e =>
    obtain ⟨rfl, htimes⟩ := metadataOf_eq_error hmetadata
    exact .inr ⟨.times, nofun, htimes, rfl⟩
  | ok metadata =>
    have hm := metadataOf_eq_ok_iff.mp hmetadata
    have htimes : Demand.times.MetBy root := ⟨⟨_, hm.beginTime⟩, _, hm.endTime⟩
    cases hpolicy : policyOf (root.child? "policy_published") with
    | error e =>
      rcases policyOf_eq_error hpolicy with ⟨rfl, hempty⟩ | ⟨rfl, hfilled, hshare⟩
      · exact .inr ⟨.domain, by simpa [Demand.earlier] using htimes, not_not.mpr hempty, rfl⟩
      · have hdomain : Demand.domain.MetBy root := hfilled
        exact .inr ⟨.share, by simpa [Demand.earlier] using ⟨htimes, hdomain⟩, hshare, rfl⟩
    | ok policy =>
      obtain ⟨hfilled, hp⟩ := policyOf_eq_ok_iff.mp hpolicy
      have hdomain : Demand.domain.MetBy root := hfilled
      have hshare : Demand.share.MetBy root := ⟨_, hp.pct⟩
      cases hrecords : (root.named "record").mapM recordOf with
      | error e =>
        obtain ⟨n, hn, he⟩ := exists_of_mapM_eq_error hrecords
        obtain ⟨rfl, hcount⟩ := recordOf_eq_error he
        refine .inr ⟨.counts, by simpa [Demand.earlier] using ⟨htimes, hdomain, hshare⟩, ?_, rfl⟩
        exact fun hcounts => hcount (hcounts n hn)
      | ok records =>
        -- Every record has a count now, so the last demand is on the sum alone.
        have hr : List.Forall₂ Record.DescribedBy (root.named "record") records := by
          simpa only [recordOf_eq_ok_iff] using mapM_eq_ok_iff.mp hrecords
        have hcounts : Demand.counts.MetBy root := exists_count_of_described hr
        cases htally : Tally.ofRecords? records with
        | none =>
          refine .inr ⟨.total, by simpa [Demand.earlier] using ⟨htimes, hdomain, hshare, hcounts⟩,
            ?_, ?_⟩
          · rw [total_metBy_iff hr, htally]
            exact Bool.false_ne_true
          · simp only [bind, Except.bind, assemble_of_none htally]
            rfl
        | some tally =>
          have htotal : Demand.total.MetBy root := by rw [total_metBy_iff hr, htally]; rfl
          refine .inl ⟨new metadata policy records, ?_, ?_⟩
          · simp only [bind, Except.bind, assemble_of_some htally]
          · intro d
            cases d <;> assumption

theorem exists_ofNode_eq_ok_iff : (∃ r, ofNode root = .ok r) ↔ ∀ d : Demand, d.MetBy root := by
  rcases ofNode_cases root with ⟨r, hr, hmet⟩ | ⟨d, -, hd, herror⟩
  · exact ⟨fun _ => hmet, fun _ => ⟨r, hr⟩⟩
  · refine ⟨fun ⟨r, hr⟩ => ?_, fun hmet => absurd (hmet d) hd⟩
    rw [herror] at hr
    cases hr

private theorem ofNode_eq_error {d : Demand} (hearlier : ∀ e ∈ d.earlier, e.MetBy root)
    (hd : ¬d.MetBy root) : ofNode root = .error d.rejection := by
  rcases ofNode_cases root with ⟨r, -, hmet⟩ | ⟨d', hearlier', hd', herror⟩
  · exact absurd (hmet d) hd
  · rcases Demand.eq_or_earlier d d' with rfl | hbefore | hbefore
    · exact herror
    · exact absurd (hearlier' d hbefore) hd
    · exact absurd (hearlier d' hbefore) hd'

/-- A document is accepted just when it meets all demands, as the report that it describes, and
otherwise rejected for the first demand that it does not meet. -/
theorem decode_by_demands {bytes : ByteArray} {s : String} {root : Node}
    (htext : String.fromUTF8? bytes = some s)
    (hdocument : Xml.document maxNodes (Xml.dropMark s.toList) = .ok root) :
    ((∃ r, decode bytes = .ok r) ↔ ∀ d : Demand, d.MetBy root) ∧
      (∀ d : Demand, (∀ e ∈ d.earlier, e.MetBy root) → ¬d.MetBy root →
        decode bytes = .error d.rejection) ∧
      ∀ r, decode bytes = .ok r → r.DescribedBy root := by
  rw [decode_eq_ofNode htext hdocument]
  exact ⟨exists_ofNode_eq_ok_iff, fun d => ofNode_eq_error, fun r => describedBy_of_ofNode⟩

/-- A report of two records, of which the second has this count. -/
def twoRecords (count : String) : Outline :=
  .branch "report_metadata" (.branch "date_range" (.leaf "end" "-1" .none) .none)
    (.branch "policy_published" (.leaf "domain" " a.example " (.leaf "pct" "050" .none))
      (.branch "record" (.branch "row" (.leaf "count" "+7" .none) .none)
        (.branch "record" (.branch "row" (.leaf "count" count .none) .none) .none)))

def twoRecordsText (count : String) : String :=
  String.ofList (Xml.header ++ (Outline.branch "feedback" (twoRecords count) .none).write)

theorem document_twoRecordsText {count : String} (hcount : (twoRecords count).isWritable = true)
    (hroom : 2 + (twoRecords count).size ≤ maxNodes) :
    Xml.document maxNodes (Xml.dropMark (twoRecordsText count).toList) =
      .ok (elementOf "feedback" (twoRecords count)) := by
  rw [twoRecordsText, String.toList_ofList]
  exact Xml.document_write (by decide +kernel) hcount hroom

theorem fromUTF8?_twoRecordsText (count : String) :
    String.fromUTF8? (twoRecordsText count).toUTF8 = some (twoRecordsText count) :=
  Draft.fromUTF8?_toUTF8 _

private theorem metBy_twoRecords (count : String) :
    ∀ d ∈ Demand.counts.earlier, d.MetBy (elementOf "feedback" (twoRecords count)) := by
  have hend : Gives Signed 0 "-1" (-1) := Text.Signed.minus (.one rfl)
  have hpct : Gives Unsigned 100 "050" 50 := Text.digits?_dropPlus_iff.mp rfl
  have htimes : Demand.times.MetBy (elementOf "feedback" (twoRecords count)) :=
    ⟨⟨0, rfl⟩, -1, hend⟩
  have hdomain : Demand.domain.MetBy (elementOf "feedback" (twoRecords count)) := by
    change "a.example" ≠ ""
    decide
  have hshare : Demand.share.MetBy (elementOf "feedback" (twoRecords count)) := ⟨50, hpct⟩
  simpa [Demand.earlier] using ⟨htimes, hdomain, hshare⟩

/-- Two counts that add up are accepted, and a fraction is refused for the counts. -/
theorem decode_by_demands_twoRecords :
    (∃ r, decode (twoRecordsText "8").toUTF8 = .ok r ∧
      r.DescribedBy (elementOf "feedback" (twoRecords "8"))) ∧
    decode (twoRecordsText "1.5").toUTF8 = .error (.malformedXml "invalid numeric field") := by
  constructor
  · obtain ⟨haccepted, -, hdescribed⟩ := decode_by_demands (fromUTF8?_twoRecordsText "8")
      (document_twoRecordsText (by decide +kernel) (by decide))
    have hfirst : Gives Unsigned 0 "+7" 7 := Text.digits?_dropPlus_iff.mp rfl
    have hsecond : Gives Unsigned 0 "8" 8 := Text.digits?_dropPlus_iff.mp rfl
    have htotal : Demand.total.MetBy (elementOf "feedback" (twoRecords "8")) :=
      ⟨[7, 8], .cons hfirst (.cons hsecond .nil), by decide⟩
    have hcounts : Demand.counts.MetBy (elementOf "feedback" (twoRecords "8")) :=
      List.forall_mem_cons.mpr ⟨⟨7, hfirst⟩, List.forall_mem_cons.mpr ⟨⟨8, hsecond⟩, nofun⟩⟩
    have hall (d : Demand) : d.MetBy (elementOf "feedback" (twoRecords "8")) := by
      cases d with
      | counts => exact hcounts
      | total => exact htotal
      | times | domain | share => exact metBy_twoRecords "8" _ (by decide)
    obtain ⟨r, hr⟩ := haccepted.mpr hall
    exact ⟨r, hr, hdescribed r hr⟩
  · obtain ⟨-, hrejected, -⟩ := decode_by_demands (fromUTF8?_twoRecordsText "1.5")
      (document_twoRecordsText (by decide +kernel) (by decide))
    have hhalf : ¬Demand.counts.MetBy (elementOf "feedback" (twoRecords "1.5")) := by
      intro hmet
      obtain ⟨c, hc⟩ := (List.forall_mem_cons.mp (List.forall_mem_cons.mp hmet).2).1
      have hread : Text.uint64? "1.5".toList = some c := Text.uint64?_eq_some_iff.mpr hc
      have hnone : Text.uint64? "1.5".toList = none := rfl
      rw [hnone] at hread
      cases hread
    exact hrejected .counts (metBy_twoRecords "1.5") hhalf

end DmarcReports.Report
