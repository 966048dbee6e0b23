import DmarcReports.Extraction
import DmarcReports.Report.Decode

/-!
Uploads and attachments: which parts of a mail are taken for reports, and what an upload holds.
-/

set_option autoImplicit false
set_option relaxedAutoImplicit false

namespace DmarcReports

/-- A file as it was received. -/
structure Upload where
  bytes : ByteArray
  /-- The declared name, which tells the format. -/
  fileName : String

namespace Upload

def parse (limits : Limits) (u : Upload) : Except Rejection Report :=
  match Extraction.extract limits u.bytes u.fileName with
  | .ok xml => Report.decode xml
  | .error e => .error e

end Upload

namespace Attachment

/-- The ends of names that reports have. -/
def suffixes : List String := [".xml", ".zip", ".gz", ".gzip"]

def contentTypes : List String :=
  ["application/zip", "application/gzip", "application/x-gzip", "application/xml", "text/xml"]

/-- The type of content without its parameters, in lower case. -/
def bareType (contentType : String) : List Char :=
  Text.asciiLower (Text.trimChars (contentType.toList.takeWhile (· ≠ ';')))

/-- Whether a part of a mail with this name and type may be a report. -/
def mayBeReport (fileName : String) (contentType : Option String) : Bool :=
  suffixes.any (Text.endsIn · (Format.comparable fileName)) ||
    contentType.any fun t => contentTypes.any fun known => known.toList == bareType t

end Attachment

end DmarcReports
