import DmarcReports.Proofs.Extraction.Success
import DmarcReports.Proofs.Tally

/-!
What an archive has to meet for its report to be extracted.

Whatever a single entry declares is part of the saturating sum, so once the sum is within the
ceiling no declared size is left to refuse. Main statement: `fromEntries_by_demands`.
-/

set_option autoImplicit false
set_option relaxedAutoImplicit false

namespace DmarcReports

namespace Count

/-- A sum that was cut off passes every limit below the cut, just as the exact sum does. -/
theorem lt_satSum_iff {limit : UInt64} (h : limit < top) (cs : List UInt64) :
    limit < satSum cs ↔ limit.toNat < exactSum cs := by
  have htop : limit.toNat < 0xFFFFFFFFFFFFFFFF := UInt64.lt_iff_toNat_lt.mp h
  rw [UInt64.lt_iff_toNat_lt, toNat_satSum]
  omega

private theorem toNat_le_exactSum_of_mem {c : UInt64} {cs : List UInt64} (h : c ∈ cs) :
    c.toNat ≤ exactSum cs := by
  have hle := exactSum_le_of_sublist (List.singleton_sublist.mpr h)
  simpa only [exactSum, Nat.add_zero] using hle

end Count

namespace Extraction

def FirstReport (entries : List Zip.Entry) (e : Zip.Entry) : Prop :=
  isReport e = true ∧
    ∃ before after, entries = before ++ e :: after ∧ ∀ x ∈ before, isReport x = false

def Opens (entries : List Zip.Entry) (feed : Feed) : Prop :=
  ∃ e, FirstReport entries e ∧ e.content () = some feed

private theorem find?_isReport_eq_some_iff {entries : List Zip.Entry} {e : Zip.Entry} :
    entries.find? isReport = some e ↔ FirstReport entries e := by
  simp only [List.find?_eq_some_iff_append, FirstReport, Bool.not_eq_true']

theorem FirstReport.unique {entries : List Zip.Entry} {e e' : Zip.Entry}
    (h : FirstReport entries e) (h' : FirstReport entries e') : e = e' := by
  rw [← find?_isReport_eq_some_iff] at h h'
  exact Option.some.inj (h.symm.trans h')

theorem Opens.unique {entries : List Zip.Entry} {feed feed' : Feed} (h : Opens entries feed)
    (h' : Opens entries feed') : feed = feed' := by
  obtain ⟨e, he, hfeed⟩ := h
  obtain ⟨e', he', hfeed'⟩ := h'
  obtain rfl := he.unique he'
  exact Option.some.inj (hfeed.symm.trans hfeed')

/-- What an archive has to meet, in the order of the checks. The last three demands are on the first
report: that it can be opened, that its content is within the ceiling, and that it is delivered
without a failure. -/
inductive Demand where
  | few
  | readable
  | declared
  | report
  | opens
  | room
  | intact
deriving DecidableEq, Repr

namespace Demand

def MetBy (limits : Limits) (entries : List Zip.Entry) : Demand → Prop
  | few => entries.length ≤ limits.maxFilesInArchive.toNat
  | readable => ∀ e ∈ entries, e.readable = true
  | declared =>
    Count.exactSum (entries.map Zip.Entry.size) ≤ limits.maxUncompressedSize.toNat
  | report => ∃ e ∈ entries, isReport e = true
  | opens => ∃ feed, Opens entries feed
  | room => ∃ feed, Opens entries feed ∧ feed.content.size ≤ limits.maxUncompressedSize.toNat
  | intact => ∃ feed, Opens entries feed ∧ feed.endsWell = true

def earlier : Demand → List Demand
  | few => []
  | readable => [few]
  | declared => [few, readable]
  | report => [few, readable, declared]
  | opens => [few, readable, declared, report]
  | room => [few, readable, declared, report, opens]
  | intact => [few, readable, declared, report, opens, room]

def rejection (limits : Limits) (entries : List Zip.Entry) : Demand → Rejection
  | few => .tooManyEntries (UInt64.ofNat entries.length) limits.maxFilesInArchive
  | readable => .format "corrupt ZIP archive"
  | declared | room => .archiveBomb limits.maxUncompressedSize
  | report => .format "no XML report inside ZIP archive"
  | opens => .format "unsupported or encrypted ZIP entry"
  | intact => .format "corrupt ZIP entry"

theorem eq_or_earlier (d e : Demand) : d = e ∨ d ∈ e.earlier ∨ e ∈ d.earlier := by
  cases d <;> cases e <;> decide

private theorem eq_intact_or_earlier (d : Demand) : d = intact ∨ d ∈ intact.earlier := by
  cases d <;> decide

end Demand

variable {limits : Limits} {entries : List Zip.Entry}

private theorem Demand.reached_next {d next : Demand} (hnext : next.earlier = d.earlier ++ [d])
    (hreached : ∀ e ∈ d.earlier, e.MetBy limits entries) (hd : d.MetBy limits entries) :
    ∀ e ∈ next.earlier, e.MetBy limits entries := by
  rw [hnext]
  exact List.forall_mem_append.mpr ⟨hreached, List.forall_mem_singleton.mpr hd⟩

private theorem readable_metBy_iff :
    Demand.readable.MetBy limits entries ↔ entries.all (·.readable) = true := by
  rw [List.all_eq_true]
  exact Iff.rfl

private theorem declared_metBy_iff (hlimit : limits.maxUncompressedSize < Count.top) :
    Demand.declared.MetBy limits entries ↔
      ¬limits.maxUncompressedSize < Count.satSum (entries.map Zip.Entry.size) := by
  rw [Count.lt_satSum_iff hlimit, Nat.not_lt]
  exact Iff.rfl

private theorem report_metBy_iff :
    Demand.report.MetBy limits entries ↔ entries.find? isReport ≠ none := by
  rw [← Option.isSome_iff_ne_none, List.find?_isSome]
  exact Iff.rfl

private theorem opens_metBy_iff {e : Zip.Entry} (he : FirstReport entries e) :
    Demand.opens.MetBy limits entries ↔ e.content () ≠ none := by
  rw [← Option.isSome_iff_ne_none, Option.isSome_iff_exists]
  constructor
  · rintro ⟨feed, e', he', hfeed⟩
    exact ⟨feed, he.unique he' ▸ hfeed⟩
  · rintro ⟨feed, hfeed⟩
    exact ⟨feed, e, he, hfeed⟩

private theorem room_metBy_iff {feed : Feed} (h : Opens entries feed) :
    Demand.room.MetBy limits entries ↔
      ¬limits.maxUncompressedSize.toNat < feed.content.size := by
  rw [Nat.not_lt]
  exact ⟨fun ⟨_, h', hsize⟩ => h.unique h' ▸ hsize, fun hsize => ⟨feed, h, hsize⟩⟩

private theorem intact_metBy_iff {feed : Feed} (h : Opens entries feed) :
    Demand.intact.MetBy limits entries ↔ feed.endsWell = true :=
  ⟨fun ⟨_, h', hends⟩ => h.unique h' ▸ hends, fun hends => ⟨feed, h, hends⟩⟩

private theorem size_le_of_declared (h : Demand.declared.MetBy limits entries) {e : Zip.Entry}
    (he : e ∈ entries) : e.size ≤ limits.maxUncompressedSize := by
  have hsize : e.size.toNat ≤ Count.exactSum (entries.map Zip.Entry.size) :=
    Count.toNat_le_exactSum_of_mem (List.mem_map_of_mem he)
  exact UInt64.le_iff_toNat_le.mpr (Nat.le_trans hsize h)

/-- That all demands are met and this is the content of the report, or this is the rejection for the
first demand that is not met. -/
def Decided (limits : Limits) (entries : List Zip.Entry) (result : Except Rejection ByteArray) :
    Prop :=
  (∃ feed, Opens entries feed ∧ result = .ok feed.content ∧
      ∀ d : Demand, d.MetBy limits entries) ∨
    ∃ d : Demand, (∀ e ∈ d.earlier, e.MetBy limits entries) ∧ ¬d.MetBy limits entries ∧
      result = .error (d.rejection limits entries)

private theorem decided_readAll {feed : Feed} (hopened : Opens entries feed) (announced : UInt64)
    (hreached : ∀ e ∈ Demand.room.earlier, e.MetBy limits entries) :
    Decided limits entries
      (readAll limits.maxUncompressedSize announced .corruptEntry feed) := by
  rw [readAll_eq]
  split
  · rename_i hlarge
    exact .inr ⟨.room, hreached, fun hroom => (room_metBy_iff hopened).mp hroom hlarge, rfl⟩
  · rename_i hlarge
    have hroom : Demand.room.MetBy limits entries := (room_metBy_iff hopened).mpr hlarge
    have hreached : ∀ e ∈ Demand.intact.earlier, e.MetBy limits entries :=
      Demand.reached_next rfl hreached hroom
    split
    · rename_i hends
      refine .inl ⟨feed, hopened, rfl, fun d => ?_⟩
      rcases d.eq_intact_or_earlier with rfl | hd
      · exact (intact_metBy_iff hopened).mpr hends
      · exact hreached d hd
    · rename_i hends
      exact .inr ⟨.intact, hreached, fun h => hends ((intact_metBy_iff hopened).mp h), rfl⟩

private theorem decided_openReport {e : Zip.Entry} (hfirst : FirstReport entries e)
    (hreached : ∀ e ∈ Demand.opens.earlier, e.MetBy limits entries) :
    Decided limits entries
      (match e.content () with
      | none => .error .unreadableEntry
      | some feed => readAll limits.maxUncompressedSize e.size .corruptEntry feed) := by
  cases hcontent : e.content () with
  | none =>
    exact .inr ⟨.opens, hreached, fun h => (opens_metBy_iff hfirst).mp h hcontent, rfl⟩
  | some feed =>
    have hopened : Opens entries feed := ⟨e, hfirst, hcontent⟩
    have hopens : Demand.opens.MetBy limits entries := ⟨feed, hopened⟩
    exact decided_readAll hopened e.size (Demand.reached_next rfl hreached hopens)

/-- Each check either passes, where its demand is met, or ends the extraction for that demand. -/
private theorem decided_fromEntries (hlimit : limits.maxUncompressedSize < Count.top)
    (entries : List Zip.Entry) : Decided limits entries (fromEntries limits entries) := by
  unfold fromEntries
  dsimp only
  split
  · rename_i hmany
    exact .inr ⟨.few, nofun, Nat.not_le.mpr hmany, rfl⟩
  rename_i hmany
  have hfew : Demand.few.MetBy limits entries := Nat.le_of_not_lt hmany
  have hreached : ∀ e ∈ Demand.readable.earlier, e.MetBy limits entries :=
    Demand.reached_next (d := .few) rfl nofun hfew
  split
  · rename_i hall
    refine .inr ⟨.readable, hreached, fun h => ?_, rfl⟩
    simp [readable_metBy_iff.mp h] at hall
  rename_i hall
  have hreadable : Demand.readable.MetBy limits entries :=
    readable_metBy_iff.mpr (by simpa using hall)
  have hreached : ∀ e ∈ Demand.declared.earlier, e.MetBy limits entries :=
    Demand.reached_next rfl hreached hreadable
  split
  · rename_i hover
    exact .inr ⟨.declared, hreached, fun h => (declared_metBy_iff hlimit).mp h hover, rfl⟩
  rename_i hover
  have hdeclared : Demand.declared.MetBy limits entries := (declared_metBy_iff hlimit).mpr hover
  have hreached : ∀ e ∈ Demand.report.earlier, e.MetBy limits entries :=
    Demand.reached_next rfl hreached hdeclared
  split
  · rename_i hnone
    exact .inr ⟨.report, hreached, fun h => report_metBy_iff.mp h hnone, rfl⟩
  · rename_i e hfind
    have hreport : Demand.report.MetBy limits entries :=
      report_metBy_iff.mpr (Option.ne_none_iff_exists'.mpr ⟨e, hfind⟩)
    -- The declared size of the report is part of a sum that has passed already.
    have hsize := size_le_of_declared hdeclared (List.mem_of_find?_eq_some hfind)
    rw [if_neg (UInt64.not_lt.mpr hsize)]
    exact decided_openReport (find?_isReport_eq_some_iff.mp hfind)
      (Demand.reached_next rfl hreached hreport)

private theorem fromEntries_eq_ok_iff (hlimit : limits.maxUncompressedSize < Count.top)
    {content : ByteArray} :
    fromEntries limits entries = .ok content ↔
      (∀ d : Demand, d.MetBy limits entries) ∧
        ∃ feed, Opens entries feed ∧ feed.content = content := by
  rcases decided_fromEntries hlimit entries with
    ⟨feed, hopened, hok, hmet⟩ | ⟨d, -, hd, herror⟩
  · rw [hok, Except.ok.injEq]
    constructor
    · exact fun hcontent => ⟨hmet, feed, hopened, hcontent⟩
    · rintro ⟨-, feed', hopened', hcontent⟩
      rw [hopened.unique hopened', hcontent]
  · rw [herror]
    constructor
    · intro h
      cases h
    · rintro ⟨hmet, -⟩
      exact absurd (hmet d) hd

private theorem fromEntries_eq_error (hlimit : limits.maxUncompressedSize < Count.top) {d : Demand}
    (hearlier : ∀ e ∈ d.earlier, e.MetBy limits entries) (hd : ¬d.MetBy limits entries) :
    fromEntries limits entries = .error (d.rejection limits entries) := by
  rcases decided_fromEntries hlimit entries with
    ⟨feed, -, -, hmet⟩ | ⟨d', hearlier', hd', herror⟩
  · exact absurd (hmet d) hd
  · rcases Demand.eq_or_earlier d d' with rfl | hbefore | hbefore
    · exact herror
    · exact absurd (hearlier' d hbefore) hd
    · exact absurd (hearlier d' hbefore) hd'

/-- The report of an archive is extracted just when the archive meets all demands, with all of its
content, and otherwise the archive is rejected for the first demand that it does not meet. What the
report itself declares is never a reason. -/
theorem fromEntries_by_demands (hlimit : limits.maxUncompressedSize < Count.top)
    (entries : List Zip.Entry) :
    (∀ content, fromEntries limits entries = .ok content ↔
        (∀ d : Demand, d.MetBy limits entries) ∧
          ∃ feed, Opens entries feed ∧ feed.content = content) ∧
      (∀ d : Demand, (∀ e ∈ d.earlier, e.MetBy limits entries) → ¬d.MetBy limits entries →
        fromEntries limits entries = .error (d.rejection limits entries)) ∧
      ∀ e, Demand.declared.MetBy limits entries → FirstReport entries e →
        e.size ≤ limits.maxUncompressedSize := by
  refine ⟨fun content => fromEntries_eq_ok_iff hlimit, fun d => fromEntries_eq_error hlimit, ?_⟩
  intro e hdeclared hfirst
  have hfind := find?_isReport_eq_some_iff.mpr hfirst
  exact size_le_of_declared hdeclared (List.mem_of_find?_eq_some hfind)

/-- A report that declares no bytes and delivers four is extracted; with an entry behind it whose
size takes the sum past the largest word and on to two, the archive is rejected. -/
theorem fromEntries_by_demands_misdeclared :
    let limits : Limits := { maxUncompressedSize := 8 }
    let note : Zip.Entry := ⟨"note.txt", 3, true, fun _ => none⟩
    let report : Zip.Entry := ⟨"A.XML", 0, true, fun _ =>
      some (.chunk "<a".toUTF8 (.interrupted (.chunk "/>".toUTF8 .ended)))⟩
    let huge : Zip.Entry := ⟨"b.xml", Count.top, true, fun _ => none⟩
    limits.maxUncompressedSize < Count.top ∧
      fromEntries limits [note, report] = .ok "<a/>".toUTF8 ∧
      fromEntries limits [note, report, huge] = .error (.archiveBomb 8) := by
  intro limits note report huge
  have hlimit : limits.maxUncompressedSize < Count.top := by decide
  refine ⟨hlimit, ?_, ?_⟩
  · have hfirst : FirstReport [note, report] report :=
      ⟨by decide, [note], [], rfl, List.forall_mem_singleton.mpr (by decide)⟩
    have hopened : Opens [note, report]
        (.chunk "<a".toUTF8 (.interrupted (.chunk "/>".toUTF8 .ended))) := ⟨report, hfirst, rfl⟩
    refine ((fromEntries_by_demands hlimit [note, report]).1 _).mpr ⟨?_, _, hopened, by decide⟩
    intro d
    cases d with
    | few => exact Nat.le_of_ble_eq_true rfl
    | readable => exact readable_metBy_iff.mpr rfl
    | declared => exact Nat.le_of_ble_eq_true rfl
    | report => exact ⟨report, by simp, hfirst.1⟩
    | opens => exact ⟨_, hopened⟩
    | room => exact ⟨_, hopened, by decide⟩
    | intact => exact ⟨_, hopened, rfl⟩
  · have hfew : Demand.few.MetBy limits [note, report, huge] := Nat.le_of_ble_eq_true rfl
    have hreadable : Demand.readable.MetBy limits [note, report, huge] :=
      readable_metBy_iff.mpr rfl
    have hover : ¬Demand.declared.MetBy limits [note, report, huge] := by
      intro hdeclared
      have hsize : huge.size ≤ limits.maxUncompressedSize :=
        size_le_of_declared hdeclared (by simp)
      exact absurd hsize (by decide)
    exact (fromEntries_by_demands hlimit [note, report, huge]).2.1 .declared
      (by simpa [Demand.earlier] using ⟨hfew, hreadable⟩) hover

end Extraction

end DmarcReports
