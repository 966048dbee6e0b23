import DmarcReports.Bytes.Bounded
import DmarcReports.Count
import DmarcReports.Gzip
import DmarcReports.Limits
import DmarcReports.Rejection
import DmarcReports.Text.Ascii
import DmarcReports.Text.Blank
import DmarcReports.Zip.Archive

/-!
From an upload to its XML: plain, from an archive, or from a GZIP stream.

What an archive declares is checked first, but the ceiling on what an upload unpacks to is kept by
counting the bytes that come out.
-/

set_option autoImplicit false
set_option relaxedAutoImplicit false

namespace DmarcReports

namespace Rejection

def unsupportedSuffix : Rejection := .format "expected a .xml, .zip, .gz or .gzip file"

def noContent : Rejection := .format "no XML content found"

def notGzip : Rejection := .format "not a GZIP stream"

def corruptGzip : Rejection := .format "corrupt GZIP stream"

def corruptArchive : Rejection := .format "corrupt ZIP archive"

def noReportInside : Rejection := .format "no XML report inside ZIP archive"

def unreadableEntry : Rejection := .format "unsupported or encrypted ZIP entry"

def corruptEntry : Rejection := .format "corrupt ZIP entry"

end Rejection

inductive Format where
  | xml
  | zip
  | gzip
deriving DecidableEq, Repr

namespace Format

def label : Format → String
  | xml => "xml"
  | zip => "zip"
  | gzip => "gzip"

/-- A file name as suffixes are compared with: without white space around it, and in lower case. -/
def comparable (fileName : String) : List Char :=
  Text.asciiLower (Text.trimChars fileName.toList)

def ofFileName? (fileName : String) : Option Format :=
  let name := comparable fileName
  if Text.endsIn ".zip" name then some zip
  else if Text.endsIn ".gz" name || Text.endsIn ".gzip" name then some gzip
  else if Text.endsIn ".xml" name then some xml
  else none

end Format

namespace Extraction

/-- All bytes of a feed, unless there are more than the ceiling allows or it fails. -/
def readAll (limit announced : UInt64) (failure : Rejection) (feed : Feed) :
    Except Rejection ByteArray :=
  match BoundedRead.read limit.toNat announced.toNat feed with
  | .complete bytes => .ok bytes
  | .exceeded _ => .error (.archiveBomb limit)
  | .failed _ => .error failure

/-- The content of a GZIP stream; its text is expected to be many times as long. -/
def gunzip (limits : Limits) (bytes : ByteArray) : Except Rejection ByteArray :=
  if Gzip.hasMagic bytes then
    readAll limits.maxUncompressedSize (UInt64.ofNat (16 * bytes.size)) .corruptGzip
      (Gzip.feed bytes)
  else .error .notGzip

def isReport (e : Zip.Entry) : Bool :=
  Text.endsIn ".xml" (Text.asciiLower e.name.toList)

/-- The content of the first report among the entries of an archive. -/
def fromEntries (limits : Limits) (entries : List Zip.Entry) : Except Rejection ByteArray :=
  let limit := limits.maxUncompressedSize
  if limits.maxFilesInArchive.toNat < entries.length then
    .error (.tooManyEntries (UInt64.ofNat entries.length) limits.maxFilesInArchive)
  else if !entries.all (·.readable) then .error .corruptArchive
  else if limit < Count.satSum (entries.map Zip.Entry.size) then .error (.archiveBomb limit)
  else match entries.find? isReport with
    | none => .error .noReportInside
    | some entry =>
      if limit < entry.size then .error (.archiveBomb limit)
      else match entry.content () with
        | none => .error .unreadableEntry
        | some feed => readAll limit entry.size .corruptEntry feed

def unzip (limits : Limits) (bytes : ByteArray) : Except Rejection ByteArray :=
  match Zip.entries? bytes with
  | none => .error .corruptArchive
  | some entries => fromEntries limits entries

def unpack (limits : Limits) (bytes : ByteArray) : Format → Except Rejection ByteArray
  | .xml => .ok bytes
  | .zip => unzip limits bytes
  | .gzip => gunzip limits bytes

/-- The XML of an upload, within the ceilings and not empty. -/
def extract (limits : Limits) (bytes : ByteArray) (fileName : String) :
    Except Rejection ByteArray :=
  if limits.maxFileSize.toNat < bytes.size then
    .error (.oversized (UInt64.ofNat bytes.size) limits.maxFileSize)
  else match Format.ofFileName? fileName with
    | none => .error .unsupportedSuffix
    | some format =>
      match unpack limits bytes format with
      | .error e => .error e
      | .ok xml => if xml.size = 0 then .error .noContent else .ok xml

end Extraction

end DmarcReports
