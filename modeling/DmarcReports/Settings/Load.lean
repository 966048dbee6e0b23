import DmarcReports.Settings.Decode
import DmarcReports.Settings.Environment
import DmarcReports.Toml.Document

/-!
Settings from their three layers: the standard values, a file that may be given, and variables of
the environment. Each layer counts before those under it, setting by setting.
-/

set_option autoImplicit false
set_option relaxedAutoImplicit false

namespace DmarcReports.Settings

inductive File where
  /-- No file is asked for. -/
  | unused
  /-- There is no file at the path. -/
  | missing (path : String)
  | present (content : ByteArray)

def File.layer : File → Except Fault Value
  | unused => .ok (.table [])
  | missing path => .error (.fileMissing path)
  | present content =>
    match Toml.ofBytes? content with
    | some v => .ok v
    | none => .error .unreadable

def ofLayers (v : Value) : Except Fault Settings :=
  match ofValue? .ignored v with
  | some s => s.check.map fun _ => s
  | none => .error .unreadable

def load (file : File) (vs : List (String × String)) : Except Fault Settings := do
  let layer ← file.layer
  ofLayers ((standard.toValue.lay layer).lay (Environment.layer vs))

end DmarcReports.Settings
