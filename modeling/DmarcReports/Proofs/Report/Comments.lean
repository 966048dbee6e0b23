import DmarcReports.Proofs.Report.Demands
import DmarcReports.Proofs.Report.Lookups
import DmarcReports.Proofs.Xml.Tidy

/-!
Comments and instructions inside the elements that hold values.

A value is the text of its element up to the first comment or instruction in it. Main statement:
`decode_bareReport`.
-/

set_option autoImplicit false
set_option relaxedAutoImplicit false

namespace DmarcReports.Report

open Xml (Node Name)
open Xml.Node

def bareResults (auth : Node) : Node :=
  (auth.changeNamed "spf" (bareAt (resultPlaces false))).changeNamed "dkim"
    (bareAt (resultPlaces true))

def bareRecord (n : Node) : Node :=
  (n.bareAt recordPlaces).changeAt bareResults ["auth_results"]

/-- The document without comments and instructions in the elements that hold values. -/
def bareReport (root : Node) : Node :=
  (root.bareAt reportPlaces).changeNamed "record" bareRecord

variable {root n : Node}

private theorem keepsNames_bareResults : KeepsNames bareResults :=
  fun n name => by
    rw [bareResults, changeNamed, keepsNames_changeChildren, changeNamed, keepsNames_changeChildren]

private theorem keepsNames_bareRecord : KeepsNames bareRecord :=
  fun n name => by
    rw [bareRecord, keepsNames_changeAt keepsNames_bareResults, keepsNames_bareAt]

private theorem value_bareAt_of_mem {places : List (List String)}
    (hplaces : places.Pairwise fun a b => Xml.apart a b = true)
    (hother : ∀ place ∈ places, ∀ path ∈ places, place = path ∨ Xml.apart place path = true)
    (hwhole : ∀ e ∈ places.filterMap n.at?, e.isWhole = true) :
    ∀ path ∈ places, (n.bareAt places).value path = n.value path := by
  intro path hpath
  refine value_bareAt hplaces (fun place hplace e he => ?_) fun place hplace =>
    hother place hplace path hpath
  exact hwhole e (List.mem_filterMap.mpr ⟨place, hplace, he⟩)

private theorem authResultOf_bareAt {withSelector : Bool}
    (hwhole : ∀ e ∈ resultElements withSelector n, e.isWhole = true) :
    authResultOf withSelector (n.bareAt (resultPlaces withSelector)) =
      authResultOf withSelector n := by
  refine authResultOf_congr (value_bareAt_of_mem ?_ ?_ hwhole)
  · cases withSelector <;> decide
  · cases withSelector <;> decide

private theorem elements_bareRecord (n : Node) (name : String) :
    (bareRecord n).elements ["auth_results"] name =
      ((n.at? ["auth_results"]).map fun auth => (bareResults auth).named name).getD [] := by
  rw [elements, bareRecord, at?_changeAt_self keepsNames_bareResults,
    at?_bareAt_of_apart (by decide), Option.map_map]
  rfl

private theorem elements_spf_bareRecord (n : Node) :
    (bareRecord n).elements ["auth_results"] "spf" =
      (n.elements ["auth_results"] "spf").map (bareAt (resultPlaces false)) := by
  rw [elements_bareRecord, elements]
  cases n.at? ["auth_results"] with
  | none => rfl
  | some auth =>
    simp only [Option.map_some, Option.getD_some, bareResults]
    rw [named_changeNamed_of_ne (keepsNames_bareAt _) (by decide),
      named_changeNamed_self (keepsNames_bareAt _)]

private theorem elements_dkim_bareRecord (n : Node) :
    (bareRecord n).elements ["auth_results"] "dkim" =
      (n.elements ["auth_results"] "dkim").map (bareAt (resultPlaces true)) := by
  rw [elements_bareRecord, elements]
  cases n.at? ["auth_results"] with
  | none => rfl
  | some auth =>
    simp only [Option.map_some, Option.getD_some, bareResults]
    rw [named_changeNamed_self (keepsNames_bareAt _),
      named_changeNamed_of_ne (keepsNames_bareAt _) (by decide)]

private theorem recordOf_bareRecord (hwhole : ∀ e ∈ recordElements n, e.isWhole = true) :
    recordOf (bareRecord n) = recordOf n := by
  simp only [recordElements, List.forall_mem_append, List.forall_mem_flatMap] at hwhole
  obtain ⟨⟨hvalues, hspf⟩, hdkim⟩ := hwhole
  refine recordOf_congr (fun path hpath => ?_) ?_ ?_
  -- The raw results stand apart from all other values.
  · have hapart : Xml.apart ["auth_results"] path = true := by
      revert path
      decide
    rw [bareRecord, value, at?_changeAt_of_apart keepsNames_bareResults hapart, ← value]
    exact value_bareAt_of_mem (by decide) (by decide) hvalues path hpath
  · rw [elements_spf_bareRecord, List.map_map]
    exact List.map_congr_left fun a ha => authResultOf_bareAt (hspf a ha)
  · rw [elements_dkim_bareRecord, List.map_map]
    exact List.map_congr_left fun a ha => authResultOf_bareAt (hdkim a ha)

private theorem ofNode_bareReport (hwhole : ∀ e ∈ valueElements root, e.isWhole = true) :
    ofNode (bareReport root) = ofNode root := by
  simp only [valueElements, List.forall_mem_append, List.forall_mem_flatMap] at hwhole
  obtain ⟨hvalues, hrecords⟩ := hwhole
  refine ofNode_congr (fun path hpath => ?_) ?_
  · have hapart : Xml.apart ["record"] path = true := by
      revert path
      decide
    rw [bareReport, value_changeNamed_of_apart keepsNames_bareRecord hapart]
    exact value_bareAt_of_mem (by decide) (by decide) hvalues path hpath
  · rw [bareReport, named_changeNamed_self keepsNames_bareRecord, named_bareAt_of_ne (by decide),
      List.map_map]
    exact List.map_congr_left fun n hn => recordOf_bareRecord (hrecords n hn)

/-- A document of whole values is read as the document without the comments and instructions in
them: it is accepted just when the other one meets all demands, as the report that the other one
describes. -/
theorem decode_bareReport {bytes bytes' : ByteArray} {s s' : String} {root : Node}
    (htext : String.fromUTF8? bytes = some s)
    (hdocument : Xml.document maxNodes (Xml.dropMark s.toList) = .ok root)
    (htext' : String.fromUTF8? bytes' = some s')
    (hdocument' : Xml.document maxNodes (Xml.dropMark s'.toList) = .ok (bareReport root))
    (hwhole : ∀ e ∈ valueElements root, e.isWhole = true) :
    decode bytes' = decode bytes ∧
      ((∃ r, decode bytes = .ok r) ↔ ∀ d : Demand, d.MetBy (bareReport root)) ∧
      ∀ r, decode bytes = .ok r → r.DescribedBy (bareReport root) := by
  have hbytes : decode bytes = ofNode (bareReport root) := by
    rw [decode_eq_ofNode htext hdocument, ofNode_bareReport hwhole]
  rw [hbytes]
  exact ⟨decode_eq_ofNode htext' hdocument', exists_ofNode_eq_ok_iff,
    fun r => describedBy_of_ofNode⟩

def countText (content : String) : String :=
  "<feedback><policy_published><domain>a.example</domain></policy_published><record><row><count>" ++
    content ++ "</count></row></record></feedback>"

def countRoot (content : List Node) : Node :=
  let plain (base : String) := Node.element ⟨"", base⟩ []
  plain "feedback" [
    plain "policy_published" [plain "domain" [.text "a.example"]],
    plain "record" [plain "row" [plain "count" content]]]

set_option maxRecDepth 100000 in
theorem document_countText_twelve :
    Xml.document maxNodes (Xml.dropMark (countText "12").toList) = .ok (countRoot [.text "12"]) := by
  exact rfl

set_option maxRecDepth 100000 in
/-- A comment behind a count makes no difference. -/
theorem decode_bareReport_comment_behind :
    (∀ e ∈ valueElements (countRoot [.text "12", .comment " n "]), e.isWhole = true) ∧
      decode (countText "12").toUTF8 = decode (countText "12<!-- n -->").toUTF8 := by
  have hdocument : Xml.document maxNodes (Xml.dropMark (countText "12<!-- n -->").toList) =
      .ok (countRoot [.text "12", .comment " n "]) := rfl
  have hwhole : ∀ e ∈ valueElements (countRoot [.text "12", .comment " n "]),
      e.isWhole = true := by
    decide
  exact ⟨hwhole, (decode_bareReport (Draft.fromUTF8?_toUTF8 _) hdocument (Draft.fromUTF8?_toUTF8 _)
    document_countText_twelve hwhole).1⟩

set_option maxRecDepth 100000 in
/-- A count behind a comment is lost without notice. -/
theorem decode_comment_in_front :
    ∃ root, Xml.document maxNodes (Xml.dropMark (countText "<!-- n -->12").toList) = .ok root ∧
      Xml.document maxNodes (Xml.dropMark (countText "12").toList) = .ok (bareReport root) ∧
      decode (countText "<!-- n -->12").toUTF8 =
        .ok (.new {} { domain := "a.example" } [{ count := 0 }]) ∧
      decode (countText "12").toUTF8 =
        .ok (.new {} { domain := "a.example" } [{ count := 12 }]) := by
  have hdocument : Xml.document maxNodes (Xml.dropMark (countText "<!-- n -->12").toList) =
      .ok (countRoot [.comment " n ", .text "12"]) := rfl
  refine ⟨_, hdocument, document_countText_twelve, ?_, ?_⟩
  · exact (decode_eq_ofNode (Draft.fromUTF8?_toUTF8 _) hdocument).trans rfl
  · exact (decode_eq_ofNode (Draft.fromUTF8?_toUTF8 _) document_countText_twelve).trans rfl

end DmarcReports.Report
