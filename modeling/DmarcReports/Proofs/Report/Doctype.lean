import DmarcReports.Proofs.Report.Accepted
import DmarcReports.Proofs.Report.RoundTrip
import DmarcReports.Proofs.Xml.Prolog

/-!
Document types and entities.

A report whose document has a type is refused before anything of the type is read, so it can declare
no entity and name no file. Main statement: `decode_refuses_doctype`.
-/

set_option autoImplicit false
set_option relaxedAutoImplicit false

namespace DmarcReports.Report

open Xml (Markup Misc Prolog dropMark isSpace)

/-- A document that has a type behind this prolog and then goes on with this text. -/
def withDoctype (p : Prolog) (rest : String) : String :=
  String.ofList p.write ++ "<!DOCTYPE" ++ rest

private theorem decode_withDoctype {p : Prolog} (h : p.WellFormed) (hroom : p.nodes < maxNodes)
    (rest : String) :
    decode (withDoctype p rest).toUTF8 = .error .doctypeForbidden := by
  have hchars : (withDoctype p rest).toList = p.write ++ ("<!DOCTYPE".toList ++ rest.toList) := by
    simp [withDoctype]
  rw [decode, Draft.fromUTF8?_toUTF8]
  simp only [ofText, hchars, h.document_doctype hroom]
  rfl

/-- No report with a document type is accepted, and what the type is and what follows it makes no
difference. So every reference in a document that is accepted, be it in a text or in a tag, is one of
the five that need no declaration or the number of a character. -/
theorem decode_refuses_doctype :
    (∀ p : Prolog, p.WellFormed → p.nodes < maxNodes →
      (∀ rest, decode (withDoctype p rest).toUTF8 =
        .error (.malformedXml "DTDs and entity declarations are not allowed")) ∧
      ∀ rest rest', decode (withDoctype p rest).toUTF8 = decode (withDoctype p rest').toUTF8) ∧
    ∀ bytes r, decode bytes = .ok r →
      ∃ s body, String.fromUTF8? bytes = some s ∧
        Xml.Declaration.skip? (dropMark (dropMark s.toList)) = some body ∧
        (Markup.split body).flatMap Markup.write = body ∧ ∀ m ∈ Markup.split body, m.Resolved := by
  constructor
  · intro p hp hroom
    refine ⟨decode_withDoctype hp hroom, fun rest rest' => ?_⟩
    rw [decode_withDoctype hp hroom, decode_withDoctype hp hroom]
  · intro bytes r hr
    obtain ⟨s, root, hs, hdocument, -⟩ := decode_eq_ok_iff.mp hr
    obtain ⟨body, hbody, hwhole, hparts⟩ := Xml.resolved_of_document hdocument
    exact ⟨s, body, hs, hbody, hwhole, hparts⟩

/-- A type that declares a file as an entity, and a report with references to characters. -/
theorem decode_refuses_doctype_of_file :
    let p : Prolog := {
      mark := true
      declaration := some { version := ⟨[' '], [], [' '], '"', "1.0".toList⟩ }
      misc := [.space '\n', .comment " report ".toList, .instruction "view".toList " b".toList] }
    let file := " r [<!ENTITY e SYSTEM \"file:///etc/passwd\">]><r>&e;</r>"
    let bytes := "<r><policy_published><domain>a&amp;b&#46;c</domain></policy_published></r>".toUTF8
    decode (withDoctype p file).toUTF8 =
        .error (.malformedXml "DTDs and entity declarations are not allowed") ∧
      decode (withDoctype p file).toUTF8 = decode (withDoctype p "").toUTF8 ∧
      decode bytes = .ok (.new {} { domain := "a&b.c" } []) ∧
      ∃ s body, String.fromUTF8? bytes = some s ∧
        Xml.Declaration.skip? (dropMark (dropMark s.toList)) = some body ∧
        (Markup.split body).flatMap Markup.write = body ∧
        ∀ m ∈ Markup.split body, m.Resolved := by
  intro p file bytes
  have hversion : Xml.Declaration.Setting.WellFormed ⟨[' '], [], [' '], '"', "1.0".toList⟩ := {
    gap_ne_nil := by decide
    gap_space := List.all_eq_true.mp rfl
    before_space := List.all_eq_true.mp rfl
    after_space := List.all_eq_true.mp rfl
    quote_mark := .inl rfl
    value_plain := by
      intro c hc
      have hdigit : c = '1' ∨ c = '.' ∨ c = '0' := by simpa using hc
      rcases hdigit with rfl | rfl | rfl <;> decide }
  have hcomment : (Misc.comment " report ".toList).WellFormed := by
    exact ⟨List.all_eq_true.mp rfl, by decide, by decide⟩
  have hinstruction : (Misc.instruction "view".toList " b".toList).WellFormed := by
    have hspace : ∀ c ∈ " b".toList.head?, isSpace c = true :=
      Xml.forall_mem_head?_cons (isSpace · = true) rfl _
    exact ⟨⟨'v', rfl, rfl⟩, List.all_eq_true.mp rfl, by decide, hspace, List.all_eq_true.mp rfl,
      by decide⟩
  have hp : p.WellFormed := {
    declaration := by
      rintro d hd
      obtain rfl := Option.some.inj hd
      have hnone (o : Xml.Declaration.Setting) (ho : o ∈ (none : Option _)) : o.WellFormed := by
        cases ho
      exact ⟨hversion, hnone, hnone, fun c hc => absurd hc List.not_mem_nil⟩
    misc := by
      intro m hm
      simp only [p, List.mem_cons, List.not_mem_nil, or_false] at hm
      rcases hm with rfl | rfl | rfl
      · rfl
      · exact hcomment
      · exact hinstruction }
  have hroom : p.nodes < maxNodes := by decide
  have hbytes : decode bytes = .ok (.new {} { domain := "a&b.c" } []) := by decide +kernel
  obtain ⟨hrefused, hsame⟩ := decode_refuses_doctype.1 p hp hroom
  exact ⟨hrefused file, hsame file "", hbytes, decode_refuses_doctype.2 bytes _ hbytes⟩

end DmarcReports.Report
