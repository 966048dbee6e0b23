import DmarcReports.Ingest
import DmarcReports.Settings.Basic

/-!
The ingestor that settings describe, on a machine with a given number of processor cores.
-/

set_option autoImplicit false
set_option relaxedAutoImplicit false

namespace DmarcReports.Settings

def Ingest.ingestor (s : Ingest) (cores : Nat) (limits : Limits) : Ingestor where
  limits := limits
  mode := s.mode
  workers := Strategy.workersFor cores s.maxThreads.toNat s.threadPercentage.toNat
  minFilesForParallel := s.minFilesForParallel.toNat

end DmarcReports.Settings
