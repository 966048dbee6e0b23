import DmarcReports.Limits
import DmarcReports.LogFilter.Basic
import DmarcReports.Strategy
import DmarcReports.Text.Quoted

/-!
Settings: the ceilings for uploads, how batches are ingested, and what is logged.

Settings are checked before they are used. Ceilings may be tightened, but neither loosened nor set
to zero, so that no setting gives up the protection against hostile uploads.
-/

set_option autoImplicit false
set_option relaxedAutoImplicit false

namespace DmarcReports

namespace Settings

structure Ingest where
  mode : ExecutionMode := .auto
  /-- The most workers; zero for no cap. -/
  maxThreads : UInt64 := 0
  /-- The share of the processor cores in percent. -/
  threadPercentage : UInt8 := 75
  /-- The fewest uploads that a pool works on, where the mode leaves the choice. -/
  minFilesForParallel : UInt64 := 4
deriving DecidableEq, Repr

structure Logging where
  level : String := "info"
deriving DecidableEq, Repr

end Settings

structure Settings where
  limits : Limits := {}
  ingest : Settings.Ingest := {}
  logging : Settings.Logging := {}
deriving DecidableEq, Repr

namespace Settings

/-- The settings that hold where nothing else is told. -/
def standard : Settings := {}

inductive Fault where
  | fileMissing (path : String)
  | unreadable
  | zero (name : String)
  | tooLarge (name : String) (value ceiling : UInt64)
  | percentage (value : UInt8)
  | level (text : String)
deriving DecidableEq, Repr

def Fault.message : Fault → String
  | fileMissing path => "Config file not found: " ++ path
  | unreadable => "Failed to parse configuration"
  | zero name => name ++ " must be greater than zero"
  | tooLarge name value ceiling =>
    name ++ " = " ++ value.toNat.repr ++ " exceeds the maximum of " ++ ceiling.toNat.repr
  | percentage value =>
    "ingest.thread_percentage must be between 1 and 100, got " ++ value.toNat.repr
  | level text => "Invalid logging.level: " ++ Text.Quoted.quote text

/-- Refuses a ceiling that is zero or looser than the standard one. -/
def checkCeiling (name : String) (value ceiling : UInt64) : Except Fault Unit :=
  if value = 0 then .error (.zero name)
  else if ceiling < value then .error (.tooLarge name value ceiling)
  else .ok ()

/-- Refuses settings that cannot be used; the first fault in their order is told. -/
def check (s : Settings) : Except Fault Unit := do
  checkCeiling "limits.max_file_size" s.limits.maxFileSize Limits.standard.maxFileSize
  checkCeiling "limits.max_uncompressed_size" s.limits.maxUncompressedSize
    Limits.standard.maxUncompressedSize
  checkCeiling "limits.max_files_in_archive" s.limits.maxFilesInArchive
    Limits.standard.maxFilesInArchive
  if s.ingest.threadPercentage = 0 ∨ 100 < s.ingest.threadPercentage then
    throw (.percentage s.ingest.threadPercentage)
  if !LogFilter.isValid s.logging.level then throw (.level s.logging.level)

end Settings

end DmarcReports
