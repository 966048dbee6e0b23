/-!
Ceilings on what an upload may be and unpack to. The standard ceilings are the loosest ones; a
setting may only tighten them.
-/

set_option autoImplicit false
set_option relaxedAutoImplicit false

namespace DmarcReports

structure Limits where
  /-- The most bytes of an upload. -/
  maxFileSize : UInt64 := 10 * 1024 * 1024
  /-- The most bytes of the XML that it unpacks to. -/
  maxUncompressedSize : UInt64 := 100 * 1024 * 1024
  /-- The most entries of an archive. -/
  maxFilesInArchive : UInt64 := 10
deriving DecidableEq, Repr

def Limits.standard : Limits := {}

/-- Ceilings that are nowhere looser than others. -/
def Limits.Tighter (l m : Limits) : Prop :=
  l.maxFileSize ≤ m.maxFileSize ∧ l.maxUncompressedSize ≤ m.maxUncompressedSize ∧
    l.maxFilesInArchive ≤ m.maxFilesInArchive

end DmarcReports
