import DmarcReports.Settings.Basic
import DmarcReports.Settings.Value

/-!
Settings read from a value.

A group of settings is a table or an array. In a table each setting has its key and unknown keys are
passed over; in an array the settings stand in their order.
-/

set_option autoImplicit false
set_option relaxedAutoImplicit false

namespace DmarcReports.Settings

/-- How an array is read that has more elements than the group has settings. -/
inductive Surplus where
  | ignored
  | refused
deriving DecidableEq, Repr

/-- The member of a group by its key in a table or its place in an array. -/
def member? (v : Value) (place : Nat) (key : String) : Option Value :=
  match v with
  | .table es => lookup? key es
  | .array vs => vs[place]?
  | _ => none

def isGroup (surplus : Surplus) (size : Nat) : Value → Bool
  | .table _ => true
  | .array vs => surplus = .ignored || vs.length ≤ size
  | _ => false

/-- Reads a setting, if there is one, and takes the standard value otherwise. -/
def orStandard {α : Type} (read : Value → Option α) (standard : α) : Option Value → Option α
  | some v => read v
  | none => some standard

def natural? (bound : Nat) : Value → Option Nat
  | .integer (.ofNat n) => if n < bound then some n else none
  | _ => none

def word? (v : Value) : Option UInt64 :=
  (natural? UInt64.size v).map UInt64.ofNat

def percentage? (v : Value) : Option UInt8 :=
  (natural? UInt8.size v).map UInt8.ofNat

def string? : Value → Option String
  | .string s => some s
  | _ => none

/-- A mode by its label, or by a table with the label as its only key and nothing under it. -/
def mode? : Value → Option ExecutionMode
  | .string s => ExecutionMode.ofLabel? s
  | .table [(key, .null)] => ExecutionMode.ofLabel? key
  | _ => none

def limits? (surplus : Surplus) (v : Value) : Option Limits := do
  if !isGroup surplus 3 v then none
  return {
    maxFileSize := ← orStandard word? Limits.standard.maxFileSize (member? v 0 "max_file_size")
    maxUncompressedSize :=
      ← orStandard word? Limits.standard.maxUncompressedSize (member? v 1 "max_uncompressed_size")
    maxFilesInArchive :=
      ← orStandard word? Limits.standard.maxFilesInArchive (member? v 2 "max_files_in_archive") }

def ingest? (surplus : Surplus) (v : Value) : Option Ingest := do
  if !isGroup surplus 4 v then none
  return {
    mode := ← orStandard mode? standard.ingest.mode (member? v 0 "mode")
    maxThreads := ← orStandard word? standard.ingest.maxThreads (member? v 1 "max_threads")
    threadPercentage :=
      ← orStandard percentage? standard.ingest.threadPercentage (member? v 2 "thread_percentage")
    minFilesForParallel :=
      ← orStandard word? standard.ingest.minFilesForParallel
        (member? v 3 "min_files_for_parallel") }

def logging? (surplus : Surplus) (v : Value) : Option Logging := do
  if !isGroup surplus 1 v then none
  return { level := ← orStandard string? standard.logging.level (member? v 0 "level") }

def ofValue? (surplus : Surplus) (v : Value) : Option Settings := do
  if !isGroup surplus 3 v then none
  return {
    limits := ← orStandard (limits? surplus) standard.limits (member? v 0 "limits")
    ingest := ← orStandard (ingest? surplus) standard.ingest (member? v 1 "ingest")
    logging := ← orStandard (logging? surplus) standard.logging (member? v 2 "logging") }

def toValue (s : Settings) : Value :=
  .table [
    ("limits", .table [
      ("max_file_size", .integer s.limits.maxFileSize.toNat),
      ("max_uncompressed_size", .integer s.limits.maxUncompressedSize.toNat),
      ("max_files_in_archive", .integer s.limits.maxFilesInArchive.toNat)]),
    ("ingest", .table [
      ("mode", .string s.ingest.mode.label),
      ("max_threads", .integer s.ingest.maxThreads.toNat),
      ("thread_percentage", .integer s.ingest.threadPercentage.toNat),
      ("min_files_for_parallel", .integer s.ingest.minFilesForParallel.toNat)]),
    ("logging", .table [("level", .string s.logging.level)])]

end DmarcReports.Settings
