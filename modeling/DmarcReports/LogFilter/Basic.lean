import DmarcReports.LogFilter.Directive
import DmarcReports.Text.Pieces

/-!
Filters of log messages: directives that are separated by commas.
-/

set_option autoImplicit false
set_option relaxedAutoImplicit false

namespace DmarcReports

/-- Directives in falling order, by their kind. -/
structure LogFilter where
  statics : List LogFilter.Directive
  dynamics : List LogFilter.Directive

namespace LogFilter

/-- The directives of a text, in its order; empty pieces are skipped. -/
def directives? (text : String) : Option (List Directive) :=
  ((Text.pieces ',' text.toList).filter (· ≠ [])).mapM Directive.ofChars?

/-- The filter that directives make, where the static ones that ask for fields come last. -/
def ofDirectives (ds : List Directive) : LogFilter :=
  let (dynamics, statics) := ds.partition Directive.isDynamic
  ⟨Directive.arrange (statics ++ dynamics.filter Directive.isStatic), Directive.arrange dynamics⟩

/-- The filter that a text tells; none where one of its directives is no directive. -/
def ofText? (text : String) : Option LogFilter :=
  (directives? text).map ofDirectives

def text (f : LogFilter) : String :=
  ",".intercalate ((f.statics ++ f.dynamics).map Directive.text)

def info : LogFilter :=
  ofDirectives [{ level := .info }]

/-- What the directives for a configured level are followed by, so that the reading of archives is
not logged in detail. -/
def quietArchives : String := ",zip=warn"

/-- The filter for a configured level. Directives that the environment gives take its place if they
can be read, and a level that cannot be read stands for informative messages. -/
def forLevel (level : String) (override : Option String) : LogFilter :=
  ((override.bind ofText?).or (ofText? (level ++ quietArchives))).getD info

def isValid (text : String) : Bool :=
  (ofText? text).isSome

inductive InstallFault where
  /-- Another one is in place, and stays there. -/
  | occupied
deriving DecidableEq, Repr

def InstallFault.message : InstallFault → String
  | occupied =>
    "Failed to install tracing subscriber: " ++
      "a global default trace dispatcher has already been set"

def install (current : Option LogFilter) (f : LogFilter) : Except InstallFault LogFilter :=
  match current with
  | none => .ok f
  | some _ => .error .occupied

end LogFilter

end DmarcReports
