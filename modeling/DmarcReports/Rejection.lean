/-!
Why an upload is rejected.

A rejection carries a fixed reason or plain numbers, never text from the upload, so its message is
safe to hand back to a sender.
-/

set_option autoImplicit false
set_option relaxedAutoImplicit false

namespace DmarcReports

/-- The cause for which an upload was not turned into a report. -/
inductive Rejection where
  /-- The upload is no report file, or its container is damaged. -/
  | format (reason : String)
  /-- The upload itself is larger than the ceiling. -/
  | oversized (size limit : UInt64)
  /-- The upload unpacks to more bytes than the ceiling. -/
  | archiveBomb (limit : UInt64)
  /-- The archive has more entries than the ceiling. -/
  | tooManyEntries (entries limit : UInt64)
  /-- The XML is no report. -/
  | malformedXml (reason : String)
  /-- The report names no policy domain. -/
  | missingDomain
deriving DecidableEq, Repr

namespace Rejection

inductive Category where
  | input
  | security
  | parse
deriving DecidableEq, Repr

def Category.label : Category → String
  | .input => "input"
  | .security => "security"
  | .parse => "parse"

def category : Rejection → Category
  | format _ => .input
  | oversized .. | archiveBomb _ | tooManyEntries .. => .security
  | malformedXml _ | missingDomain => .parse

/-- A short stable name of the cause, for log fields and counters. -/
def kind : Rejection → String
  | format _ => "format_error"
  | oversized .. => "size_limit_exceeded"
  | archiveBomb _ => "archive_bomb"
  | tooManyEntries .. => "too_many_entries"
  | malformedXml _ => "malformed_xml"
  | missingDomain => "missing_domain"

/-- The text shown to the sender. -/
def message : Rejection → String
  | format reason => "unsupported report file: " ++ reason
  | oversized size limit =>
    "file too large (" ++ toString size.toNat ++ " bytes); maximum is " ++ toString limit.toNat
      ++ " bytes"
  | archiveBomb limit =>
    "uncompressed content exceeds " ++ toString limit.toNat ++ " bytes; possible archive bomb"
  | tooManyEntries entries limit =>
    "archive contains too many files (" ++ toString entries.toNat ++ "); maximum is "
      ++ toString limit.toNat
  | malformedXml reason => "malformed report XML: " ++ reason
  | missingDomain => "report does not name a policy domain"

end Rejection

end DmarcReports
