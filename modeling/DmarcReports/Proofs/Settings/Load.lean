import DmarcReports.Proofs.Settings.Check
import DmarcReports.Proofs.Settings.Layers
import DmarcReports.Proofs.Toml.Document
import DmarcReports.Settings.Load

/-!
Which layer each setting comes from.

If the variables name members of groups only, every single setting comes from the uppermost layer that
tells it, and whatever comes out of the layers keeps to the ceilings. Main statement: `load_by_layers`.
-/

set_option autoImplicit false
set_option relaxedAutoImplicit false

namespace DmarcReports.Settings

open Environment (NamesMembers assigned? tells layer)
open Value (Written Plain layOver at?)

/-- That each of the settings comes from the uppermost layer that tells it; `filed` is what the file
tells for the setting of a group at a place and under a key. -/
structure ByLayers (vs : List (String × String)) (filed : String → Nat → String → Option Value)
    (s : Settings) : Prop where
  maxFileSize : Follows word? Limits.standard.maxFileSize vs filed "limits" 0 "max_file_size"
    s.limits.maxFileSize
  maxUncompressedSize : Follows word? Limits.standard.maxUncompressedSize vs filed "limits" 1
    "max_uncompressed_size" s.limits.maxUncompressedSize
  maxFilesInArchive : Follows word? Limits.standard.maxFilesInArchive vs filed "limits" 2
    "max_files_in_archive" s.limits.maxFilesInArchive
  mode : Follows mode? standard.ingest.mode vs filed "ingest" 0 "mode" s.ingest.mode
  maxThreads : Follows word? standard.ingest.maxThreads vs filed "ingest" 1 "max_threads"
    s.ingest.maxThreads
  threadPercentage : Follows percentage? standard.ingest.threadPercentage vs filed "ingest" 2
    "thread_percentage" s.ingest.threadPercentage
  minFilesForParallel : Follows word? standard.ingest.minFilesForParallel vs filed "ingest" 3
    "min_files_for_parallel" s.ingest.minFilesForParallel
  level : Follows string? standard.logging.level vs filed "logging" 0 "level" s.logging.level

section Parts

variable {surplus : Surplus} {g v : Value} {s : Settings}

private theorem members_of_limits? {l : Limits} (h : limits? surplus g = some l) :
    orStandard word? Limits.standard.maxFileSize (member? g 0 "max_file_size") =
        some l.maxFileSize ∧
      orStandard word? Limits.standard.maxUncompressedSize (member? g 1 "max_uncompressed_size") =
        some l.maxUncompressedSize ∧
      orStandard word? Limits.standard.maxFilesInArchive (member? g 2 "max_files_in_archive") =
        some l.maxFilesInArchive := by
  unfold limits? at h
  split at h
  · cases h
  obtain ⟨size, hsize, h⟩ := Option.bind_eq_some_iff.mp h
  obtain ⟨total, htotal, h⟩ := Option.bind_eq_some_iff.mp h
  obtain ⟨count, hcount, h⟩ := Option.bind_eq_some_iff.mp h
  cases h
  exact ⟨hsize, htotal, hcount⟩

private theorem members_of_ingest? {i : Ingest} (h : ingest? surplus g = some i) :
    orStandard mode? standard.ingest.mode (member? g 0 "mode") = some i.mode ∧
      orStandard word? standard.ingest.maxThreads (member? g 1 "max_threads") =
        some i.maxThreads ∧
      orStandard percentage? standard.ingest.threadPercentage (member? g 2 "thread_percentage") =
        some i.threadPercentage ∧
      orStandard word? standard.ingest.minFilesForParallel (member? g 3 "min_files_for_parallel") =
        some i.minFilesForParallel := by
  unfold ingest? at h
  split at h
  · cases h
  obtain ⟨mode, hmode, h⟩ := Option.bind_eq_some_iff.mp h
  obtain ⟨threads, hthreads, h⟩ := Option.bind_eq_some_iff.mp h
  obtain ⟨percentage, hpercentage, h⟩ := Option.bind_eq_some_iff.mp h
  obtain ⟨fewest, hfewest, h⟩ := Option.bind_eq_some_iff.mp h
  cases h
  exact ⟨hmode, hthreads, hpercentage, hfewest⟩

private theorem members_of_logging? {l : Logging} (h : logging? surplus g = some l) :
    orStandard string? standard.logging.level (member? g 0 "level") = some l.level := by
  unfold logging? at h
  split at h
  · cases h
  obtain ⟨level, hlevel, h⟩ := Option.bind_eq_some_iff.mp h
  cases h
  exact hlevel

private theorem groups_of_ofValue? (h : ofValue? surplus v = some s) :
    orStandard (limits? surplus) standard.limits (member? v 0 "limits") = some s.limits ∧
      orStandard (ingest? surplus) standard.ingest (member? v 1 "ingest") = some s.ingest ∧
      orStandard (logging? surplus) standard.logging (member? v 2 "logging") = some s.logging := by
  unfold ofValue? at h
  split at h
  · cases h
  obtain ⟨limits, hlimits, h⟩ := Option.bind_eq_some_iff.mp h
  obtain ⟨ingest, hingest, h⟩ := Option.bind_eq_some_iff.mp h
  obtain ⟨logging, hlogging, h⟩ := Option.bind_eq_some_iff.mp h
  cases h
  exact ⟨hlimits, hingest, hlogging⟩

private theorem written_toValue (s : Settings) : Written s.toValue := by
  unfold toValue
  refine .table (by simp) ?_
  simp only [List.forall_mem_cons]
  refine ⟨.table (by simp) ?_, .table (by simp) ?_, .table (by simp) ?_, nofun⟩
  · simp [Written.integer]
  · simp [Written.integer, Written.string]
  · simp [Written.string]

end Parts

section Loading

variable {vs : List (String × String)} {ts : List (String × Value)} {s : Settings}

private theorem exists_group (vs : List (String × String)) (hts : Written (.table ts)) (place : Nat)
    {group : String} {defaults : List (String × Value)}
    (hdefaults : at? [group] standard.toValue = some (.table defaults)) :
    ∃ g, member? ((standard.toValue.lay (.table ts)).lay (layer vs)) place group = some g ∧
      layOver (layOver (some (.table defaults)) (at? [group] (.table ts)))
        (at? [group] (layer vs)) = some g := by
  obtain ⟨es, hlayer⟩ := Environment.table_layer vs
  have hes : Written (.table es) := hlayer ▸ Environment.written_layer vs
  obtain ⟨joined, hjoined⟩ := Value.table_lay es (standard.toValue.lay (.table ts))
  have hgroup : lookup? group joined =
      layOver (layOver (some (.table defaults)) (lookup? group ts)) (lookup? group es) := by
    rw [← Value.at?_table, ← hjoined, Value.at?_lay hes.keys, Value.at?_lay hts.keys, hdefaults]
  obtain ⟨lower, hlower⟩ := Value.exists_layOver (.table defaults) (lookup? group ts)
  obtain ⟨g, hg⟩ := Value.exists_layOver lower (lookup? group es)
  rw [hlayer, hjoined, Value.at?_table, Value.at?_table, ← hgroup]
  refine ⟨g, ?_, ?_⟩
  · rw [← hg, ← hlower, ← hgroup, member?]
  · rw [← hg, ← hlower, ← hgroup]

private theorem exists_group_follows (hvs : NamesMembers vs) (hts : Written (.table ts))
    (place : Nat) {group : String} {defaults : List (String × Value)}
    (hdefaults : at? [group] standard.toValue = some (.table defaults)) :
    ∃ g, member? ((standard.toValue.lay (.table ts)).lay (layer vs)) place group = some g ∧
      ∀ {α : Type} {read : Value → Option α} {std a : α} {place : Nat} {key : String},
        Plain read → orStandard read std (lookup? key defaults) = some std →
          orStandard read std (member? g place key) = some a →
            Follows read std vs (filed? vs (.table ts)) group place key a := by
  obtain ⟨g, hg, hlay⟩ := exists_group vs hts place hdefaults
  have hwritten : Written (.table defaults) := (written_toValue standard).of_at? hdefaults
  exact ⟨g, hg, fun hplain hkey ha => follows_of_member? hplain hvs hts hwritten hkey hlay ha⟩

private theorem byLayers_of_ofValue? (hvs : NamesMembers vs) (hts : Written (.table ts))
    (h : ofValue? .ignored ((standard.toValue.lay (.table ts)).lay (layer vs)) = some s) :
    ByLayers vs (filed? vs (.table ts)) s := by
  have hlimits : at? ["limits"] standard.toValue = some (.table _) := rfl
  have hingest : at? ["ingest"] standard.toValue = some (.table _) := rfl
  have hlogging : at? ["logging"] standard.toValue = some (.table _) := rfl
  obtain ⟨limits, hlimits, limitsFollow⟩ := exists_group_follows hvs hts 0 hlimits
  obtain ⟨ingest, hingest, ingestFollows⟩ := exists_group_follows hvs hts 1 hingest
  obtain ⟨logging, hlogging, loggingFollows⟩ := exists_group_follows hvs hts 2 hlogging
  have hgroups := groups_of_ofValue? h
  rw [hlimits, hingest, hlogging] at hgroups
  obtain ⟨hsize, htotal, hcount⟩ := members_of_limits? hgroups.1
  obtain ⟨hmode, hthreads, hpercentage, hfewest⟩ := members_of_ingest? hgroups.2.1
  have hlevel := members_of_logging? hgroups.2.2
  exact {
    maxFileSize := limitsFollow plain_word? rfl hsize
    maxUncompressedSize := limitsFollow plain_word? rfl htotal
    maxFilesInArchive := limitsFollow plain_word? rfl hcount
    mode := ingestFollows plain_mode? rfl hmode
    maxThreads := ingestFollows plain_word? rfl hthreads
    threadPercentage := ingestFollows plain_percentage? rfl hpercentage
    minFilesForParallel := ingestFollows plain_word? rfl hfewest
    level := loggingFollows plain_string? rfl hlevel }

private theorem table_of_layer {file : File} {told : Value} (h : file.layer = .ok told) :
    ∃ ts, told = .table ts ∧ Written (.table ts) := by
  cases file with
  | unused =>
    cases h
    exact ⟨[], rfl, .table List.nodup_nil nofun⟩
  | missing path => cases h
  | present content =>
    rw [File.layer] at h
    split at h
    · rename_i hdocument
      cases h
      exact Toml.table_of_ofBytes? hdocument
    · cases h

private theorem of_ofLayers {v : Value} (h : ofLayers v = .ok s) :
    ofValue? .ignored v = some s ∧ s.check = .ok () := by
  unfold ofLayers at h
  split at h
  · rename_i read hread
    cases hcheck : read.check with
    | error fault =>
      rw [hcheck] at h
      cases h
    | ok =>
      rw [hcheck] at h
      cases h
      exact ⟨hread, hcheck⟩
  · cases h

/-- Settings come from the layers one by one, and no layer takes them over a ceiling or to zero. -/
theorem load_by_layers {file : File} (hvs : NamesMembers vs) (h : load file vs = .ok s) :
    ∃ told, file.layer = .ok told ∧ ByLayers vs (filed? vs told) s ∧
      (s.limits.maxFileSize ≠ 0 ∧ s.limits.maxUncompressedSize ≠ 0 ∧
        s.limits.maxFilesInArchive ≠ 0) ∧
      s.limits.Tighter Limits.standard ∧
      s.ingest.threadPercentage ≠ 0 ∧ s.ingest.threadPercentage ≤ 100 := by
  unfold load at h
  cases hfile : file.layer with
  | error fault =>
    rw [hfile] at h
    cases h
  | ok told =>
    rw [hfile] at h
    obtain ⟨ts, rfl, hts⟩ := table_of_layer hfile
    obtain ⟨hread, hcheck⟩ := of_ofLayers h
    obtain ⟨hzero, hceilings, hpercentage, -⟩ := (check_eq_ok_iff s).mp hcheck
    exact ⟨_, rfl, byLayers_of_ofValue? hvs hts hread, hzero, hceilings, hpercentage⟩

/-- A variable over one of two settings in a table of the file. -/
theorem load_by_layers_size :
    NamesMembers [("DMARCGUARD_LIMITS__MAX_FILE_SIZE", "1000")] ∧
      ∃ s told, load (.present "[limits]\nmax_file_size = 2000\nmax_files_in_archive = 7\n".toUTF8)
          [("DMARCGUARD_LIMITS__MAX_FILE_SIZE", "1000")] = .ok s ∧
        s.limits = { maxFileSize := 1000, maxFilesInArchive := 7 } ∧
        ByLayers [("DMARCGUARD_LIMITS__MAX_FILE_SIZE", "1000")]
          (filed? [("DMARCGUARD_LIMITS__MAX_FILE_SIZE", "1000")] told) s := by
  have hpath : Environment.path? "DMARCGUARD_LIMITS__MAX_FILE_SIZE" =
      some ["limits", "max_file_size"] := by
    decide +kernel
  have hvs : NamesMembers [("DMARCGUARD_LIMITS__MAX_FILE_SIZE", "1000")] := by
    refine List.forall_mem_singleton.mpr fun group => ?_
    rw [hpath]
    nofun
  have hload : load (.present "[limits]\nmax_file_size = 2000\nmax_files_in_archive = 7\n".toUTF8)
      [("DMARCGUARD_LIMITS__MAX_FILE_SIZE", "1000")] =
      .ok { limits := { maxFileSize := 1000, maxFilesInArchive := 7 } } :=
    eq_ok_of_toOption (by decide +kernel)
  obtain ⟨told, -, hlayers, -⟩ := load_by_layers hvs hload
  exact ⟨hvs, _, told, hload, rfl, hlayers⟩

end Loading

def groupsAsArrays : File :=
  .present "limits = [1000]\ningest = [\"sequential\"]\n".toUTF8

/-- The file has no key of a setting, but tells two settings, and one of them no longer once a variable
tells another one of its group. So there is no saying from the file alone what it tells. -/
theorem load_arrays :
    ∃ told s s', groupsAsArrays.layer = .ok told ∧ load groupsAsArrays [] = .ok s ∧
      load groupsAsArrays [("DMARCGUARD_INGEST__MAX_THREADS", "3")] = .ok s' ∧
      ¬ByLayers [("DMARCGUARD_INGEST__MAX_THREADS", "3")]
        (fun group _ key => at? [group, key] told) s' ∧
      ∀ filed, ByLayers [] filed s →
        ¬ByLayers [("DMARCGUARD_INGEST__MAX_THREADS", "3")] filed s' := by
  have hkeyless : (groupsAsArrays.layer.toOption.map fun told =>
      (at? ["limits", "max_file_size"] told).isNone) = some true := by
    decide +kernel
  obtain ⟨told, htold, hnone⟩ := Option.map_eq_some_iff.mp hkeyless
  have halone : load groupsAsArrays [] =
      .ok { limits := { maxFileSize := 1000 }, ingest := { mode := .sequential } } :=
    eq_ok_of_toOption (by decide +kernel)
  have hjoined : load groupsAsArrays [("DMARCGUARD_INGEST__MAX_THREADS", "3")] =
      .ok { limits := { maxFileSize := 1000 }, ingest := { maxThreads := 3 } } :=
    eq_ok_of_toOption (by decide +kernel)
  have hothers : ∀ path ∈ [["limits", "max_file_size"], ["ingest", "mode"]],
      assigned? [("DMARCGUARD_INGEST__MAX_THREADS", "3")] path = none := fun path hpath =>
    Option.map_eq_none_iff.mpr (by revert path; decide +kernel)
  refine ⟨told, _, _, eq_ok_of_toOption htold, halone, hjoined, fun hkeys => ?_,
    fun filed hfile hover => ?_⟩
  · -- There is no such key, so by the keys this would be the standard size.
    have hsize := hkeys.maxFileSize
    rw [Follows, hothers _ (by simp), Option.none_or, Option.isNone_iff_eq_none.mp hnone] at hsize
    exact absurd hsize (by decide)
  · -- The mode of the file would be both of the modes that come out.
    have hmode := hover.mode
    rw [Follows, hothers _ (by simp)] at hmode
    exact absurd (hfile.mode.symm.trans hmode) (by decide)

end DmarcReports.Settings
