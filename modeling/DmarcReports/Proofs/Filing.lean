import DmarcReports.Ingest
import DmarcReports.Proofs.Extraction.Success
import DmarcReports.Proofs.Report.Accepted
import DmarcReports.Proofs.Report.RoundTrip
import DmarcReports.Proofs.Store.Membership

/-!
What one upload does to the store.

The receipt takes the domain from the report and the store files the report under a domain of its
own choice; the two are the same because an accepted report names its domain. Main statement:
`ingest_files`.
-/

set_option autoImplicit false
set_option relaxedAutoImplicit false

namespace DmarcReports

theorem Report.filedUnder_of_ne_empty {r : Report} (h : r.domain ≠ "") : r.filedUnder = r.domain :=
  if_neg h

theorem Upload.domain_ne_empty_of_parse {limits : Limits} {u : Upload} {r : Report}
    (h : u.parse limits = .ok r) : r.domain ≠ "" := by
  unfold Upload.parse at h
  split at h
  · exact Report.domain_ne_empty_of_decode h
  · cases h

namespace Store

/-- That two stores give the same answers to every question about this domain. -/
structure SameFor (s t : Store) (domain : String) : Prop where
  contains : s.contains domain = t.contains domain
  summary : s.summary? domain = t.summary? domain
  entries : ∀ limit, s.entries domain limit = t.entries domain limit
  report : ∀ reportId, s.report? domain reportId = t.report? domain reportId
  sources : s.sources domain = t.sources domain

private theorem sameFor_of_ledgers {s t : Store} {domain : String}
    (h : s.ledgers[domain]? = t.ledgers[domain]?) : s.SameFor t domain where
  contains := by
    rw [contains, contains, Std.TreeMap.contains_eq_isSome_getElem?,
      Std.TreeMap.contains_eq_isSome_getElem?, h]
  summary := by rw [summary?, summary?, h]
  entries limit := by simp only [entries, reports, h]
  report reportId := by rw [report?, report?, h]
  sources := by rw [sources, sources, h]

private theorem sameFor_add {s : Store} {r : Report} {domain : String} (h : domain ≠ r.filedUnder) :
    s.SameFor (s.add r).2 domain := by
  apply sameFor_of_ledgers
  rw [ledgers_add, if_neg h.symm]

private theorem report?_add (s : Store) (r : Report) :
    (s.add r).2.report? r.filedUnder r.metadata.reportId = some r := by
  have hfile (l : Ledger) : (l.file r).find? r.metadata.reportId = some r :=
    List.find?_cons_of_pos (beq_self_eq_true r.metadata.reportId)
  rw [report?, ledgers_add, if_pos rfl, Option.bind_some]
  cases s.ledgers[r.filedUnder]? with
  | none => exact hfile { policy := r.policy }
  | some l => exact hfile l

/-- How many reports a store has of a domain, and how many messages they cover. -/
def figuresOf (s : Store) (domain : String) : Nat × UInt64 :=
  ((s.summary? domain).map fun m => (m.reportsProcessed, m.tally.total)).getD (0, 0)

private theorem figuresOf_add (s : Store) (r : Report) :
    (s.add r).2.figuresOf r.filedUnder =
      ((s.figuresOf r.filedUnder).1 + 1,
        Count.satAdd (s.figuresOf r.filedUnder).2 r.tally.total) := by
  simp only [figuresOf, summary?, ledgers_add, if_true]
  cases s.ledgers[r.filedUnder]? with
  | none => rfl
  | some l => rfl

/-- That a report is in a store the way its receipt says, and that nothing else has changed. -/
structure Filed (before after : Store) (r : Report) (receipt : Receipt) : Prop where
  domain_ne_empty : receipt.domain ≠ ""
  key : r.filedUnder = receipt.domain
  contained : after.contains receipt.domain = true
  found : after.report? receipt.domain receipt.reportId = some r
  processed : (after.figuresOf receipt.domain).1 = (before.figuresOf receipt.domain).1 + 1
  messages : (after.figuresOf receipt.domain).2 =
    Count.satAdd (before.figuresOf receipt.domain).2 receipt.messages
  others : ∀ domain, domain ≠ receipt.domain → before.SameFor after domain

private theorem filed_add (s : Store) {r : Report} (h : r.domain ≠ "") :
    s.Filed (s.add r).2 r (Receipt.ofReport r) := by
  have hkey : r.filedUnder = r.domain := Report.filedUnder_of_ne_empty h
  have hfigures := s.figuresOf_add r
  have hreport := s.report?_add r
  rw [hkey] at hfigures hreport
  refine ⟨h, hkey, ?_, hreport, congrArg Prod.fst hfigures, congrArg Prod.snd hfigures, ?_⟩
  · rw [contains_add, hkey]
    simp [Receipt.ofReport]
  · intro domain hdomain
    exact sameFor_add (hkey ▸ hdomain)

end Store

namespace Ingestor

/-- A rejected upload changes nothing. An accepted one is filed, and its receipt tells where. -/
theorem ingest_files (g : Ingestor) (s : Store) (u : Upload) :
    (∀ e, u.parse g.limits = .error e → g.ingest s u = (.error e, s)) ∧
      ∀ r, u.parse g.limits = .ok r →
        ∃ receipt, (g.ingest s u).1 = .ok receipt ∧ s.Filed (g.ingest s u).2 r receipt := by
  constructor
  · intro e he
    rw [ingest, he]
  · intro r hr
    rw [ingest, hr]
    exact ⟨Receipt.ofReport r, rfl, s.filed_add (Upload.domain_ne_empty_of_parse hr)⟩

/-- An upload that names no domain, and one whose identifier is known and whose domain is full. -/
theorem ingest_files_known_identifier :
    let g : Ingestor := { limits := Limits.standard, workers := 4 }
    let earlier : Report :=
      .new { reportId := "7" } { domain := "b.example" } [{ count := Count.top }]
    let s := (Store.empty.add earlier).2
    let nameless : Upload := ⟨"<feedback/>".toUTF8, "a.xml"⟩
    let draft : Report.Draft := ⟨"b.example", "7", 0, [⟨"192.0.2.1", 5, "pass", ""⟩]⟩
    let u : Upload := ⟨draft.text.toUTF8, "a.xml"⟩
    nameless.parse g.limits = .error .missingDomain ∧
      g.ingest s nameless = (.error .missingDomain, s) ∧
      u.parse g.limits = .ok draft.report ∧
      ∃ receipt, (g.ingest s u).1 = .ok receipt ∧
        s.Filed (g.ingest s u).2 draft.report receipt := by
  intro g earlier s nameless draft u
  have hnameless : nameless.parse g.limits = .error .missingDomain := by decide +kernel
  have hreadable : draft.Readable := {
    domain_verbatim := by decide
    domain_ne_empty := by decide
    reportId_verbatim := by decide
    rows_verbatim := by decide
    begin_in_range := by decide
    counts_fit := by decide
    nodes_fit := by decide }
  have hsize : draft.text.toUTF8.size = 593 := by decide +kernel
  have hextract : Extraction.extract g.limits u.bytes u.fileName = .ok draft.text.toUTF8 := by
    refine Extraction.extract_eq_ok_iff.mpr ⟨?_, ⟨.xml, by decide, rfl⟩, ?_⟩
    · exact hsize.trans_le (by decide)
    · exact hsize.symm ▸ (by decide)
  have hparse : u.parse g.limits = .ok draft.report := by
    rw [Upload.parse, hextract]
    exact hreadable.decode_text
  have hrejected := (ingest_files g s nameless).1 .missingDomain hnameless
  have hfiled := (ingest_files g s u).2 draft.report hparse
  exact ⟨hnameless, hrejected, hparse, hfiled⟩

end Ingestor

end DmarcReports
