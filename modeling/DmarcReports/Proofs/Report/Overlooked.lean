import DmarcReports.Proofs.Report.Comments
import DmarcReports.Proofs.Xml.Query

/-!
What reading a report overlooks.

A report is read by one query, so it depends on nothing but the answer. Main statement:
`decode_eq_of_unseen`.
-/

set_option autoImplicit false
set_option relaxedAutoImplicit false

namespace DmarcReports.Report

open Xml (Node Query Unseen)
open Xml.Query (value_eq_of_answer_eq elements_eq_of_answer_eq)

def periodQuery : Query :=
  .value "begin" (.value "end" .none)

def metadataQuery : Query :=
  .value "report_id" (.value "org_name" (.value "email" (.first "date_range" periodQuery .none)))

def policyQuery : Query :=
  .value "domain" (.value "adkim" (.value "aspf" (.value "p" (.value "sp" (.value "pct" .none)))))

def evaluatedQuery : Query :=
  .value "disposition" (.value "dkim" (.value "spf" .none))

def rowQuery : Query :=
  .value "source_ip" (.value "count" (.first "policy_evaluated" evaluatedQuery .none))

def resultQuery (withSelector : Bool) : Query :=
  .value "domain" (.value "result" (if withSelector then .value "selector" .none else .none))

def resultsQuery : Query :=
  .each "spf" (resultQuery false) (.each "dkim" (resultQuery true) .none)

def recordQuery : Query :=
  .first "row" rowQuery
    (.first "identifiers" (.value "header_from" .none) (.first "auth_results" resultsQuery .none))

/-- All that is looked up below the root. -/
def reportQuery : Query :=
  .first "report_metadata" metadataQuery
    (.first "policy_published" policyQuery (.each "record" recordQuery .none))

private theorem paths_resultQuery (withSelector : Bool) :
    (resultQuery withSelector).paths = resultPlaces withSelector := by
  cases withSelector <;> rfl

private theorem paths_recordQuery : recordQuery.paths = recordPlaces := rfl

private theorem paths_reportQuery : reportQuery.paths = reportPlaces := rfl

private theorem eachPlaces_recordQuery : recordQuery.eachPlaces =
    [(["auth_results"], "spf", resultQuery false), (["auth_results"], "dkim", resultQuery true)] :=
  rfl

private theorem eachPlaces_reportQuery :
    reportQuery.eachPlaces = [([], "record", recordQuery)] := rfl

/-- Lists with the same images under one function have the same under all that it determines. -/
private theorem map_eq_of_factorsThrough {α β γ : Type} {f : α → β} {g : α → γ}
    (hg : g.FactorsThrough f) {as bs : List α} (h : as.map f = bs.map f) : as.map g = bs.map g := by
  induction as generalizing bs with
  | nil =>
    cases bs with
    | nil => rfl
    | cons b bs => cases h
  | cons a as ih =>
    cases bs with
    | nil => cases h
    | cons b bs =>
      obtain ⟨hhead, htail⟩ := List.cons.inj h
      rw [List.map_cons, List.map_cons, hg hhead, ih htail]

private theorem authResultOf_factorsThrough (withSelector : Bool) :
    (authResultOf withSelector).FactorsThrough (resultQuery withSelector).answer := by
  intro n n' h
  apply authResultOf_congr
  rw [← paths_resultQuery]
  exact value_eq_of_answer_eq h

private theorem recordOf_factorsThrough : recordOf.FactorsThrough recordQuery.answer := by
  intro n n' h
  have helements := elements_eq_of_answer_eq h
  rw [eachPlaces_recordQuery] at helements
  obtain ⟨hspf, hrest⟩ := List.forall_mem_cons.mp helements
  have hdkim := List.forall_mem_singleton.mp hrest
  exact recordOf_congr (paths_recordQuery ▸ value_eq_of_answer_eq h)
    (map_eq_of_factorsThrough (authResultOf_factorsThrough false) hspf)
    (map_eq_of_factorsThrough (authResultOf_factorsThrough true) hdkim)

/-- A report depends only on the answer to its query. -/
private theorem ofNode_factorsThrough : ofNode.FactorsThrough reportQuery.answer := by
  intro root root' h
  have helements := elements_eq_of_answer_eq h
  rw [eachPlaces_reportQuery] at helements
  have hrecords := List.forall_mem_singleton.mp helements
  exact ofNode_congr (paths_reportQuery ▸ value_eq_of_answer_eq h)
    (map_eq_of_factorsThrough recordOf_factorsThrough hrecords)

variable {root root' : Node}

/-- Changes that the query does not see make no difference to what is read, be it a report or a
rejection. -/
theorem decode_eq_of_unseen (h : Relation.EqvGen (Unseen reportQuery) root root') :
    ofNode root = ofNode root' ∧
      ∀ {bytes bytes' : ByteArray} {s s' : String},
        String.fromUTF8? bytes = some s → String.fromUTF8? bytes' = some s' →
        Xml.document maxNodes (Xml.dropMark s.toList) = .ok root →
        Xml.document maxNodes (Xml.dropMark s'.toList) = .ok root' →
        decode bytes = decode bytes' := by
  have hread : ofNode root = ofNode root' := ofNode_factorsThrough (Query.answer_eq_of_eqvGen h)
  refine ⟨hread, fun htext htext' hdocument hdocument' => ?_⟩
  rw [decode_eq_ofNode htext hdocument, decode_eq_ofNode htext' hdocument', hread]

/-- A report of one count, with a comment, a second count, qualifiers, attributes and another
root. -/
def decoratedText : String :=
  "<r:x xmlns:r=\"u\"><!-- n --><policy_published><r:domain a=\"1\">a.example</r:domain>" ++
    "</policy_published><record><row><count>12</count><count>x</count></row></record></r:x>"

def plainElement (base : String) (children : List Node) : Node :=
  .element ⟨"", base⟩ [] children

def firstCount : Node := plainElement "count" [.text "12"]

def secondCount : Node := plainElement "count" [.text "x"]

def examplePolicy : Node :=
  plainElement "policy_published" [plainElement "domain" [.text "a.example"]]

def decoratedRoot : Node :=
  .element ⟨"r", "x"⟩ [⟨⟨"xmlns", "r"⟩, "u"⟩] [
    .comment " n ",
    plainElement "policy_published" [
      .element ⟨"r", "domain"⟩ [⟨⟨"", "a"⟩, "1"⟩] [.text "a.example"]],
    plainElement "record" [plainElement "row" [firstCount, secondCount]]]

private theorem eqvGen_decoratedRoot :
    Relation.EqvGen (Unseen reportQuery) (countRoot [.text "12"]) decoratedRoot := by
  have hrow : Unseen rowQuery (plainElement "row" [firstCount])
      (plainElement "row" [firstCount, secondCount]) :=
    .again [firstCount] [] secondCount "count" (by decide) rfl rfl
  have hrecord : Unseen recordQuery (plainElement "record" [plainElement "row" [firstCount]])
      (plainElement "record" [plainElement "row" [firstCount, secondCount]]) :=
    .inside [] [] "row" (by decide) rfl rfl (List.forall_mem_singleton.mpr hrow)
  have hagain : Unseen reportQuery (countRoot [.text "12"])
      (plainElement "feedback" [examplePolicy,
        plainElement "record" [plainElement "row" [firstCount, secondCount]]]) :=
    .inside [examplePolicy] [] "record" (by decide) rfl rfl (List.forall_mem_singleton.mpr hrecord)
  have hinsert : Unseen reportQuery
      (plainElement "feedback" [examplePolicy,
        plainElement "record" [plainElement "row" [firstCount, secondCount]]])
      (plainElement "feedback" [.comment " n ", examplePolicy,
        plainElement "record" [plainElement "row" [firstCount, secondCount]]]) :=
    .insert [] _ (.comment " n ") fun _ _ => rfl
  exact .trans _ _ _ (.rel _ _ hagain) (.trans _ _ _ (.rel _ _ hinsert) (.rel _ _ (.retag rfl)))

set_option maxRecDepth 100000 in
/-- The decorated report is read as the plain one. -/
theorem decode_eq_of_unseen_decorated :
    Relation.EqvGen (Unseen reportQuery) (countRoot [.text "12"]) decoratedRoot ∧
      decode (countText "12").toUTF8 = decode decoratedText.toUTF8 := by
  have hdocument : Xml.document maxNodes (Xml.dropMark decoratedText.toList) = .ok decoratedRoot :=
    rfl
  exact ⟨eqvGen_decoratedRoot, (decode_eq_of_unseen eqvGen_decoratedRoot).2
    (Draft.fromUTF8?_toUTF8 _) (Draft.fromUTF8?_toUTF8 _) document_countText_twelve hdocument⟩

end DmarcReports.Report
