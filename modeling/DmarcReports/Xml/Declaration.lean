import DmarcReports.Xml.Tag

/-!
The XML declaration, which may open a document: its version, then perhaps its encoding and whether
it stands alone. None of the three changes how the document is read.
-/

set_option autoImplicit false
set_option relaxedAutoImplicit false

namespace DmarcReports.Xml.Declaration

/-- The characters behind `start`, if the text starts with it. -/
def behind? (start : String) (cs : List Char) : Option (List Char) :=
  if start.toList.isPrefixOf cs then some (cs.drop start.toList.length) else none

def skipSpaces (cs : List Char) : List Char :=
  cs.dropWhile isSpace

/-- The characters behind a name, an equals sign and a quoted value. -/
def behindSetting? (cs : List Char) : Option (List Char) := do
  let (name, cs) := cs.span isNameChar
  let _ ← Name.ofChars? name
  let cs ← behind? "=" (skipSpaces cs)
  match skipSpaces cs with
  | [] => none
  | quote :: cs =>
    if quote ≠ '"' ∧ quote ≠ '\'' then none
    else
      let (value, cs) := cs.span fun c => c ≠ quote && c ≠ '<'
      if value.all isLegal then behind? (String.singleton quote) cs else none

/-- The characters behind a setting that starts with this word and the spaces that must end it; all
of them, if no such setting is there. -/
def behindOptional? (word : String) (cs : List Char) : Option (List Char) :=
  if word.toList.isPrefixOf cs then behindSetting? cs else some cs

/-- The characters behind the spaces that part two settings; none where they are missing and the
declaration goes on. -/
def behindGap? (cs : List Char) : Option (List Char) :=
  match cs with
  | [] => some []
  | c :: _ =>
    if isSpace c || "?>".toList.isPrefixOf cs then some (skipSpaces cs) else none

/-- The rest of a document behind its declaration, if it has one; none where that is damaged. -/
def skip? (cs : List Char) : Option (List Char) :=
  match behind? "<?xml " cs with
  | none => some cs
  | some cs => do
    let cs := skipSpaces cs
    let _ ← behind? "version" cs
    let cs ← behindGap? (← behindSetting? cs)
    let cs ← if "encoding".toList.isPrefixOf cs then behindGap? (← behindSetting? cs) else some cs
    let cs ← behindOptional? "standalone" cs
    behind? "?>" (skipSpaces cs)

end DmarcReports.Xml.Declaration
