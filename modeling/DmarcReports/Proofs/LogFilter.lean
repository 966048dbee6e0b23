import DmarcReports.Proofs.Settings.Check

/-!
Levels that settings may have, and the filters that are made from them.

Directives stand between commas, so texts that are joined by a comma are read as if each of them
stood alone. Main statement: `check_agrees_with_forLevel`.
-/

set_option autoImplicit false
set_option relaxedAutoImplicit false

namespace DmarcReports

namespace LogFilter

namespace Directive

private theorem mem_insert_self (d : Directive) (ds : List Directive) : d ∈ insert d ds := by
  induction ds with
  | nil => exact List.mem_singleton_self d
  | cons e es ih =>
    rw [insert]
    cases d.compare e with
    | gt | eq => exact List.mem_cons_self
    | lt => exact List.mem_cons_of_mem e ih

private theorem mem_insert_of_mem {d e : Directive} {ds : List Directive} (h : d ∈ ds)
    (hother : e.compare d ≠ .eq) : d ∈ insert e ds := by
  induction ds with
  | nil => cases h
  | cons f fs ih =>
    rw [insert]
    cases hf : e.compare f with
    | gt => exact List.mem_cons_of_mem e h
    | eq =>
      rcases List.mem_cons.mp h with rfl | hmem
      · exact absurd hf hother
      · exact List.mem_cons_of_mem e hmem
    | lt =>
      rcases List.mem_cons.mp h with rfl | hmem
      · exact List.mem_cons_self
      · exact List.mem_cons_of_mem f (ih hmem)

private theorem mem_arrange (before : List Directive) {d : Directive} {after : List Directive}
    (hlast : ∀ e ∈ after, e.compare d ≠ .eq) : d ∈ arrange (before ++ d :: after) := by
  rw [arrange, List.foldl_append, List.foldl_cons]
  -- From any directives with this one among them, since each of the later ones is put in.
  generalize hes : insert d (before.foldl (fun es d => insert d es) []) = es
  have hmem : d ∈ es := hes ▸ mem_insert_self d _
  clear hes
  induction after generalizing es with
  | nil => exact hmem
  | cons e after ih =>
    exact ih (fun e' he' => hlast e' (List.mem_cons_of_mem e he')) _
      (mem_insert_of_mem hmem (hlast e List.mem_cons_self))

private theorem isDynamic_eq_of_compare {d e : Directive} (h : d.compare e = .eq) :
    d.isDynamic = e.isDynamic := by
  simp only [compare, Ordering.then_eq_eq, Std.LawfulEqCmp.compare_eq_iff_eq] at h
  obtain ⟨-, hspan, hfield, -⟩ := h
  rw [isDynamic, isDynamic, hspan, hfield]

end Directive

def Holds (f : LogFilter) (d : Directive) : Prop :=
  d ∈ f.statics ∨ d ∈ f.dynamics

/-- No directive is lost but to a later one that asks for the same. -/
private theorem holds_ofDirectives (before : List Directive) {d : Directive}
    {after : List Directive} (hlast : ∀ e ∈ after, e.compare d ≠ .eq) :
    (ofDirectives (before ++ d :: after)).Holds d := by
  have hkept (p : Directive → Bool) (e : Directive) (he : e ∈ after.filter p) : e.compare d ≠ .eq :=
    hlast e (List.mem_filter.mp he).1
  rw [ofDirectives, List.partition_eq_filter_filter]
  cases hd : d.isDynamic with
  | true =>
    refine .inr ?_
    rw [List.filter_append, List.filter_cons_of_pos hd]
    exact Directive.mem_arrange _ (hkept _)
  | false =>
    have hstatic : (not ∘ Directive.isDynamic) d = true := congrArg not hd
    have hsplit : (before ++ d :: after).filter (not ∘ Directive.isDynamic) =
        before.filter (not ∘ Directive.isDynamic) ++
          d :: after.filter (not ∘ Directive.isDynamic) := by
      rw [List.filter_append, List.filter_cons_of_pos hstatic]
    refine .inl ?_
    simp only [hsplit, List.append_assoc, List.cons_append]
    refine Directive.mem_arrange _ fun e he => ?_
    rcases List.mem_append.mp he with hbefore | hbehind
    · exact hkept _ e hbefore
    · -- What stands behind the static ones asks for a span or a field, and this one does not.
      have hdynamic := (List.mem_filter.mp (List.mem_filter.mp hbehind).1).2
      intro heq
      rw [Directive.isDynamic_eq_of_compare heq, hd] at hdynamic
      cases hdynamic

/-- The directive that keeps the reading of archives quiet. -/
def archivesAtWarn : Directive :=
  { target := some "zip".toList, level := .warn }

private theorem directives?_append_comma (a b : String) :
    directives? (a ++ "," ++ b) =
      (directives? a).bind fun ds => (directives? b).map (ds ++ ·) := by
  have hpieces : Text.pieces ',' (a ++ "," ++ b).toList =
      Text.pieces ',' a.toList ++ Text.pieces ',' b.toList := by
    rw [String.toList_append, String.toList_append, List.append_assoc]
    exact Text.pieces_append_mark ',' a.toList b.toList
  rw [directives?, hpieces, List.filter_append, List.mapM_append, ← directives?, ← directives?]
  cases directives? a with
  | none => rfl
  | some ds => cases directives? b <;> rfl

private theorem directives?_quietArchives (level : String) :
    directives? (level ++ quietArchives) = (directives? level).map (· ++ [archivesAtWarn]) := by
  have hquiet : level ++ quietArchives = level ++ "," ++ "zip=warn" := by
    rw [String.append_assoc]
    rfl
  have hzip : directives? "zip=warn" = some [archivesAtWarn] := by rfl
  rw [hquiet, directives?_append_comma, hzip]
  cases directives? level <;> rfl

private theorem forLevel_none (level : String) :
    forLevel level none =
      ((directives? level).map fun ds => ofDirectives (ds ++ [archivesAtWarn])).getD info := by
  rw [forLevel, ofText?, directives?_quietArchives, Option.map_map]
  rfl

private theorem ofText?_info : ofText? "info" = some info := by rfl

end LogFilter

namespace Settings

open LogFilter (directives? ofDirectives ofText? forLevel archivesAtWarn)

private theorem check_eq_of_others {s : Settings}
    (hothers : ({ s with logging := standard.logging } : Settings).check = .ok ()) :
    s.check = if LogFilter.isValid s.logging.level then .ok ()
      else .error (.level s.logging.level) := by
  obtain ⟨⟨hfile, hsize, hcount⟩, ⟨hfile', hsize', hcount'⟩, hpercentage, -⟩ :=
    (check_eq_ok_iff _).mp hothers
  have hpercentage := (percentage_iff _).mpr hpercentage
  rw [check, (checkCeiling_eq_ok_iff _ _ _).mpr ⟨hfile, hfile'⟩,
    (checkCeiling_eq_ok_iff _ _ _).mpr ⟨hsize, hsize'⟩,
    (checkCeiling_eq_ok_iff _ _ _).mpr ⟨hcount, hcount'⟩, if_neg hpercentage]
  cases LogFilter.isValid s.logging.level <;> rfl

/-- With usable other settings, and no directives from the environment, the check passes just when the
filter is made from the level with the directive for archives behind it. Then each of its directives
is in the filter, unless a later one asks for the same. Otherwise the level is the fault that is
told, and the filter is the one of informative messages. -/
theorem check_agrees_with_forLevel (s : Settings)
    (hothers : ({ s with logging := standard.logging } : Settings).check = .ok ()) :
    (s.check = .ok () ↔
        ofText? (s.logging.level ++ ",zip=warn") = some (forLevel s.logging.level none)) ∧
      (s.check = .ok () → ∃ ds, directives? s.logging.level = some ds ∧
        forLevel s.logging.level none = ofDirectives (ds ++ [archivesAtWarn]) ∧
        ∀ before d after, ds ++ [archivesAtWarn] = before ++ d :: after →
          (∀ e ∈ after, e.compare d ≠ .eq) → (forLevel s.logging.level none).Holds d) ∧
      (s.check ≠ .ok () → s.check = .error (.level s.logging.level) ∧
        ofText? (s.logging.level ++ ",zip=warn") = none ∧
        some (forLevel s.logging.level none) = ofText? "info") := by
  have hcheck := check_eq_of_others hothers
  have htext : ofText? (s.logging.level ++ ",zip=warn") =
      (directives? s.logging.level).map fun ds => ofDirectives (ds ++ [archivesAtWarn]) := by
    rw [ofText?, ← LogFilter.quietArchives, LogFilter.directives?_quietArchives, Option.map_map]
    rfl
  rw [LogFilter.isValid, ofText?] at hcheck
  rw [htext, LogFilter.forLevel_none, LogFilter.ofText?_info]
  cases hlevel : directives? s.logging.level with
  | none =>
    have hfault : s.check = .error (.level s.logging.level) := by simpa [hlevel] using hcheck
    have hfails : s.check ≠ .ok () := by
      rw [hfault]
      exact nofun
    exact ⟨⟨fun h => absurd h hfails, nofun⟩, fun h => absurd h hfails, fun _ => ⟨hfault, rfl, rfl⟩⟩
  | some ds =>
    have hpasses : s.check = .ok () := by simpa [hlevel] using hcheck
    refine ⟨⟨fun _ => rfl, fun _ => hpasses⟩, fun _ => ⟨ds, rfl, rfl, ?_⟩, fun h => absurd hpasses h⟩
    intro before d after hds hlast
    rw [Option.map_some, Option.getD_some, hds]
    exact LogFilter.holds_ofDirectives before hlast

/-- A level with commas at its ends, and no directive at all, pass and take effect; a level that is
none does neither. Of two directives for all messages the second one counts. -/
theorem check_agrees_with_forLevel_stray_commas :
    (({ logging := { level := ",debug,," } } : Settings).check = .ok () ∧
      ofText? ",debug,,,zip=warn" = some (forLevel ",debug,," none)) ∧
    (({ logging := { level := "" } } : Settings).check = .ok () ∧
      ofText? ",zip=warn" = some (forLevel "" none)) ∧
    (({ logging := { level := "debug,a=loud" } } : Settings).check =
        .error (.level "debug,a=loud") ∧
      some (forLevel "debug,a=loud" none) = ofText? "info") ∧
    (forLevel "debug,info" none).Holds { level := .info } ∧
    (forLevel "debug,info" none).text = "zip=warn,info" := by
  have hothers : ({} : Settings).check = .ok () := by rfl
  have hcommas : ({ logging := { level := ",debug,," } } : Settings).check = .ok () := by rfl
  have hempty : ({ logging := { level := "" } } : Settings).check = .ok () := by rfl
  have hloud : ({ logging := { level := "debug,a=loud" } } : Settings).check ≠ .ok () := nofun
  have hfails := (check_agrees_with_forLevel { logging := { level := "debug,a=loud" } }
    hothers).2.2 hloud
  have htwo : ({ logging := { level := "debug,info" } } : Settings).check = .ok () := by rfl
  obtain ⟨ds, hds, -, hholds⟩ :=
    (check_agrees_with_forLevel { logging := { level := "debug,info" } } hothers).2.1 htwo
  obtain rfl : [{ level := .debug }, { level := .info }] = ds := Option.some.inj hds
  have hinfo := hholds [{ level := .debug }] { level := .info } [archivesAtWarn] rfl (by decide)
  exact ⟨⟨hcommas, (check_agrees_with_forLevel _ hothers).1.mp hcommas⟩,
    ⟨hempty, (check_agrees_with_forLevel _ hothers).1.mp hempty⟩, ⟨hfails.1, hfails.2.2⟩, hinfo,
    by decide +kernel⟩

end Settings

end DmarcReports
