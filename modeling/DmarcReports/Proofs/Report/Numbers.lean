import DmarcReports.Proofs.Report.Demands

/-!
What is refused as a number.

Main statement: `decode_refuses_nonnumbers`.
-/

set_option autoImplicit false
set_option relaxedAutoImplicit false

namespace DmarcReports.Report

open Xml (Node)
open Text (Digits Signed Unsigned)

inductive NumberKind where
  /-- An end of the period that is reported on. -/
  | time
  /-- The share of mail that the policy is applied to. -/
  | share
  /-- The message count of a record. -/
  | count
deriving DecidableEq, Repr

def NumberKind.bound : NumberKind → Nat
  | time => Text.int64Bound
  | share => UInt32.size
  | count => UInt64.size

/-- The values of a document that are read as numbers. -/
def numberValues (root : Node) : List (NumberKind × String) :=
  [(.time, root.value ["report_metadata", "date_range", "begin"]),
    (.time, root.value ["report_metadata", "date_range", "end"]),
    (.share, root.value ["policy_published", "pct"])] ++
    (root.named "record").map fun n => (.count, n.value ["row", "count"])

/-- That the value is a number of the kind, without a minus sign. -/
def NumberKind.Writes (kind : NumberKind) (text : String) : Prop :=
  ∃ n, Unsigned text.toList n ∧ n < kind.bound

def IsNegativeTime (kind : NumberKind) (text : String) : Prop :=
  kind = .time ∧ ∃ ds n, text.toList = '-' :: ds ∧ Digits ds n ∧ n ≤ NumberKind.time.bound

variable {root : Node} {text : String}

private theorem time_of_gives {t : Int64} (hfilled : text ≠ "") (h : Gives Signed 0 text t.toInt) :
    NumberKind.time.Writes text ∨ IsNegativeTime .time text := by
  have hbound : NumberKind.time.bound = 9223372036854775808 := rfl
  have hlow := t.le_toInt
  have hhigh := t.toInt_lt
  rw [Gives, if_neg hfilled] at h
  generalize htext : text.toList = cs at h
  generalize t.toInt = i at h hlow hhigh
  cases h with
  | @unsigned _ n hn => exact .inl ⟨n, htext ▸ hn, by omega⟩
  | @minus ds n hn => exact .inr ⟨rfl, ds, n, htext, hn, by omega⟩

private theorem share_of_gives {s : UInt32} (hfilled : text ≠ "")
    (h : Gives Unsigned 100 text s.toNat) :
    NumberKind.share.Writes text := by
  rw [Gives, if_neg hfilled] at h
  exact ⟨s.toNat, h, s.toNat_lt⟩

private theorem count_of_gives {c : UInt64} (hfilled : text ≠ "")
    (h : Gives Unsigned 0 text c.toNat) :
    NumberKind.count.Writes text := by
  rw [Gives, if_neg hfilled] at h
  exact ⟨c.toNat, h, c.toNat_lt⟩

private theorem number_of_metBy (htimes : Demand.times.MetBy root)
    (hshare : Demand.share.MetBy root) (hcounts : Demand.counts.MetBy root) {kind : NumberKind}
    (hvalue : (kind, text) ∈ numberValues root) (hfilled : text ≠ "") :
    kind.Writes text ∨ IsNegativeTime kind text := by
  obtain ⟨⟨b, hbegin⟩, t, hend⟩ := htimes
  obtain ⟨s, hs⟩ := hshare
  simp only [numberValues, List.mem_append, List.mem_cons, List.not_mem_nil, or_false,
    List.mem_map, Prod.mk.injEq] at hvalue
  rcases hvalue with (⟨rfl, rfl⟩ | ⟨rfl, rfl⟩ | ⟨rfl, rfl⟩) | ⟨n, hn, rfl, rfl⟩
  · exact time_of_gives hfilled hbegin
  · exact time_of_gives hfilled hend
  · exact .inl (share_of_gives hfilled hs)
  · obtain ⟨c, hc⟩ := hcounts n hn
    exact .inl (count_of_gives hfilled hc)

/-- A document is refused where a number is given that is none of its kind, unless it is a time
before the epoch. -/
theorem decode_refuses_nonnumbers {bytes : ByteArray} {s : String} {root : Node}
    (htext : String.fromUTF8? bytes = some s)
    (hdocument : Xml.document maxNodes (Xml.dropMark s.toList) = .ok root)
    {kind : NumberKind} {text : String} (hvalue : (kind, text) ∈ numberValues root)
    (hfilled : text ≠ "") (hnumber : ¬kind.Writes text) (hnegative : ¬IsNegativeTime kind text) :
    decode bytes = .error (.malformedXml "invalid numeric field") ∨
      root.value ["policy_published", "domain"] = "" ∧ decode bytes = .error .missingDomain := by
  rw [decode_eq_ofNode htext hdocument]
  have hunmet (htimes : Demand.times.MetBy root) (hshare : Demand.share.MetBy root)
      (hcounts : Demand.counts.MetBy root) : False := by
    rcases number_of_metBy htimes hshare hcounts hvalue hfilled with hwrites | htime
    · exact hnumber hwrites
    · exact hnegative htime
  rcases ofNode_cases root with ⟨r, -, hmet⟩ | ⟨d, hearlier, hd, herror⟩
  · exact absurd (hmet .counts) (hunmet (hmet .times) (hmet .share))
  · cases d with
    | times | share | counts => exact .inl herror
    | domain => exact .inr ⟨not_not.mp hd, herror⟩
    | total =>
      exact absurd (hearlier .counts (by decide))
        (hunmet (hearlier .times (by decide)) (hearlier .share (by decide)))

/-- A fraction is no count. -/
theorem decode_refuses_nonnumbers_fraction :
    decode (twoRecordsText "1.5").toUTF8 = .error (.malformedXml "invalid numeric field") := by
  have hvalue : (NumberKind.count, "1.5") ∈
      numberValues (elementOf "feedback" (twoRecords "1.5")) := by
    change _ ∈ [_, _, _, _, (NumberKind.count, "1.5")]
    simp
  have hnumber : ¬NumberKind.count.Writes "1.5" := by
    rintro ⟨n, hn, -⟩
    cases Text.digits?_dropPlus_iff.mpr hn
  have htime : ¬IsNegativeTime .count "1.5" := fun h => by cases h.1
  rcases decode_refuses_nonnumbers (fromUTF8?_twoRecordsText "1.5")
    (document_twoRecordsText (by decide +kernel) (by decide)) hvalue (by decide) hnumber htime with
    hrefused | ⟨hempty, -⟩
  · exact hrefused
  · change "a.example" = "" at hempty
    exact absurd hempty (by decide)

/-- An end before the epoch is accepted. -/
theorem decode_negative_end :
    ∃ root, Xml.document maxNodes (Xml.dropMark (twoRecordsText "8").toList) = .ok root ∧
      (.time, "-1") ∈ numberValues root ∧ ¬NumberKind.time.Writes "-1" ∧
      ∃ r, decode (twoRecordsText "8").toUTF8 = .ok r ∧ r.metadata.endTime = -1 := by
  have hdocument : Xml.document maxNodes (Xml.dropMark (twoRecordsText "8").toList) =
      .ok (elementOf "feedback" (twoRecords "8")) :=
    document_twoRecordsText (by decide +kernel) (by decide)
  refine ⟨_, hdocument, ?_, ?_, ?_⟩
  · change _ ∈ [_, (NumberKind.time, "-1"), _, _, _]
    simp
  · rintro ⟨n, hn, -⟩
    cases Text.digits?_dropPlus_iff.mpr hn
  · exact ⟨_, (decode_eq_ofNode (fromUTF8?_twoRecordsText "8") hdocument).trans rfl, rfl⟩

end DmarcReports.Report
