import DmarcReports.Text.Ascii
import DmarcReports.Text.Numeral

/-!
Levels of log messages, from nothing at all to everything.
-/

set_option autoImplicit false
set_option relaxedAutoImplicit false

namespace DmarcReports.LogFilter

/-- The most detailed messages that are let through. -/
inductive Level where
  | off
  | error
  | warn
  | info
  | debug
  | trace
deriving DecidableEq, Repr

namespace Level

def all : List Level := [off, error, warn, info, debug, trace]

def label : Level → String
  | off => "off"
  | error => "error"
  | warn => "warn"
  | info => "info"
  | debug => "debug"
  | trace => "trace"

def ofChars? (cs : List Char) : Option Level :=
  match (Text.unsigned? UInt64.size cs).bind (all[·]?) with
  | some l => some l
  | none => all.find? fun l => l.label.toList == Text.asciiLower cs

theorem ofChars?_label (l : Level) : ofChars? l.label.toList = some l := by
  cases l <;> decide

end Level

end DmarcReports.LogFilter
