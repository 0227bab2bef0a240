/-
  Wiring.Proofs.Survey.Candidates

  No candidate gets lost. The roles leave out what generated code cannot reach, and a check across
  modules reports it; the two walk the declarations apart from each other. Counted together they
  account for every candidate once, and what the check reports is all that makes a build fail.
-/

import Wiring.Generation
import Wiring.Proofs.Survey.Problems
import Wiring.Proofs.Survey.Registration

namespace Wiring

/-! ## Errors among the diagnostics -/

namespace Diagnostic

/-- A diagnostic that does not make the build fail. -/
def IsAdvice (e : Diagnostic) : Prop :=
  ∃ problem args place, problem ≠ .inaccessibleCandidate ∧ e = .of problem args place

/-- Whether a diagnostic reports that a declaration is out of reach. -/
def accuses (e : Diagnostic) (d : Declaration) : Bool :=
  e.problem == .inaccessibleCandidate && e.args == [d.name, d.moduleName]

/-- The only problem that makes a build fail is a candidate out of reach. -/
theorem isError_of (problem : Problem) (args : List String) (place : DiagnosticPlace) :
    (Diagnostic.of problem args place).isError = (problem == .inaccessibleCandidate) := by
  cases problem <;> rfl

variable {e : Diagnostic}

theorem IsAdvice.isError_eq_false (h : e.IsAdvice) : e.isError = false := by
  obtain ⟨problem, args, place, hne, rfl⟩ := h
  rw [isError_of]
  exact beq_false_of_ne hne

theorem IsAdvice.accuses_eq_false (h : e.IsAdvice) (d : Declaration) : e.accuses d = false := by
  obtain ⟨problem, args, place, hne, rfl⟩ := h
  unfold accuses
  rw [show (Diagnostic.of problem args place).problem = problem from rfl, beq_false_of_ne hne,
    Bool.false_and]

/-- A diagnostic of other problems does not make the build fail. -/
theorem IsOneOf.isAdvice {problems : List Problem} (h : e.IsOneOf problems)
    (hother : .inaccessibleCandidate ∉ problems) : e.IsAdvice := by
  obtain ⟨problem, hproblem, args, place, rfl⟩ := h
  exact ⟨problem, args, place, ne_of_mem_of_not_mem hproblem hother, rfl⟩

/-- A report names the one declaration that it is about. -/
theorem accuses_about_iff {d e : Declaration} :
    (about e .inaccessibleCandidate [e.name, e.moduleName]).accuses d =
      (e.placement == d.placement) := by
  rw [Bool.eq_iff_iff]
  simp [accuses, about, of, Declaration.placement, and_comm]

end Diagnostic

/-! ## What the roles report -/

namespace Survey

variable {s : Survey} {d : Declaration} {e : Diagnostic}

/-- What a declaration does in a role never makes the build fail. -/
theorem isAdvice_of_mem_contribution (role : Role)
    (h : e ∈ (s.contribution d role).diagnostics) : e.IsAdvice :=
  (isOneOf_of_mem_contribution role h).isAdvice (by cases role <;> decide)

theorem isAdvice_of_mem_allFindings (h : e ∈ s.allFindings.diagnostics) : e.IsAdvice := by
  rw [s.allFindings_part (·.diagnostics) fun _ _ => rfl] at h
  obtain ⟨d, -, hd⟩ := List.mem_flatMap.mp h
  obtain ⟨found, hfound, he⟩ := List.mem_flatMap.mp hd
  rcases List.mem_cons.mp hfound with rfl | hrole
  · -- Decorators that no role takes up
    exact (isOneOf_of_mem_lostDecorators he).isAdvice (by decide)
  · -- What the roles report
    obtain ⟨role, -, rfl⟩ := List.mem_map.mp hrole
    exact isAdvice_of_mem_contribution role he

theorem isAdvice_of_mem_silentModules (h : e ∈ s.silentModules) : e.IsAdvice := by
  obtain ⟨m, -, hm⟩ := List.mem_filterMap.mp h
  unfold silentPlugins at hm
  split at hm
  · cases hm
  · cases hm
    exact ⟨_, _, _, by decide, rfl⟩

/-! ## Candidates out of reach -/

variable (s) in
/-- The candidates that generated code cannot reach. -/
def lostCandidates : List Declaration :=
  s.graph.scannedTypes.filter fun d => s.isCandidate d && !s.reaches d

theorem inaccessibleCandidates_eq :
    s.inaccessibleCandidates =
      s.lostCandidates.map fun d => .about d .inaccessibleCandidate [d.name, d.moduleName] := rfl

/-- The scanned declarations that qualify stand at different places. -/
theorem nodup_placements_filter (h : s.graph.WellFormed) (p : Declaration → Bool) :
    ((s.graph.scannedTypes.filter p).map Declaration.placement).Nodup :=
  h.nodup_scanned.sublist (List.filter_sublist.map _)

/-- Among the scanned declarations that qualify, the place of one occurs once if it qualifies. -/
theorem count_placement_filter (h : s.graph.WellFormed) (hd : d ∈ s.graph.scannedTypes)
    (p : Declaration → Bool) :
    ((s.graph.scannedTypes.filter p).map Declaration.placement).count d.placement =
      if p d then 1 else 0 := by
  split
  · rename_i hp
    refine List.count_eq_one_of_mem (nodup_placements_filter h p) ?_
    exact List.mem_map_of_mem (List.mem_filter.mpr ⟨hd, hp⟩)
  · rename_i hp
    refine List.count_eq_zero.mpr fun hmem => hp ?_
    obtain ⟨e, he, hplace⟩ := List.mem_map.mp hmem
    obtain ⟨hscan, hpe⟩ := List.mem_filter.mp he
    exact h.eq_of_placement_eq hscan hd hplace ▸ hpe

/-- No two reports of candidates out of reach say the same. -/
theorem nodup_inaccessibleCandidates (h : s.graph.WellFormed) :
    s.inaccessibleCandidates.Nodup := by
  refine List.Nodup.of_map (fun e : Diagnostic => e.args) ?_
  -- The arguments spell the place
  have hargs : (s.inaccessibleCandidates.map fun e => e.args) =
      (s.lostCandidates.map Declaration.placement).map fun p => [p.typeName, p.moduleName] := by
    rw [inaccessibleCandidates_eq, List.map_map, List.map_map]
    rfl
  rw [hargs]
  refine (nodup_placements_filter h _).map fun p q heq => ?_
  obtain ⟨htype, hrest⟩ := List.cons.inj heq
  obtain ⟨hmodule, -⟩ := List.cons.inj hrest
  cases p
  cases q
  exact congr (congrArg Placement.mk hmodule) htype

/-! ## What a plan says about a candidate -/

/-- The kinds of diagnostics that only the check for candidates out of reach reports are, in the
    plan, those of that check. -/
theorem filter_diagnostics_perm (h : s.graph.WellFormed) (p : Diagnostic → Bool)
    (hadvice : ∀ e : Diagnostic, e.IsAdvice → p e = false) :
    (s.plan.diagnostics.filter p).Perm (s.inaccessibleCandidates.filter p) := by
  have hfound : s.allFindings.diagnostics.filter p = [] :=
    List.filter_eq_nil_iff.mpr fun e he => by simp [hadvice e (isAdvice_of_mem_allFindings he)]
  have hsilent : s.silentModules.filter p = [] :=
    List.filter_eq_nil_iff.mpr fun e he => by simp [hadvice e (isAdvice_of_mem_silentModules he)]
  have hall : (s.allFindings.diagnostics ++ s.check).filter p =
      s.inaccessibleCandidates.filter p := by
    rw [check, List.filter_append, List.filter_append, hfound, hsilent, List.nil_append,
      List.append_nil]
  -- Sorting merges equal diagnostics, so the reports have to differ
  have hnodup : (s.inaccessibleCandidates.filter p).Nodup :=
    (nodup_inaccessibleCandidates h).filter p
  rw [← hall] at hnodup ⊢
  exact List.filter_sortDistinct_perm Diagnostic.order p hnodup

/-- The errors of a plan are the reports of the candidates that are out of reach. -/
theorem errors_perm (h : s.graph.WellFormed) :
    (s.plan.diagnostics.filter Diagnostic.isError).Perm s.inaccessibleCandidates := by
  have hall : s.inaccessibleCandidates.filter Diagnostic.isError = s.inaccessibleCandidates := by
    refine List.filter_eq_self.mpr fun e he => ?_
    obtain ⟨d, -, rfl⟩ := List.mem_map.mp he
    exact Diagnostic.isError_of ..
  rw [← hall]
  exact filter_diagnostics_perm h Diagnostic.isError fun _ he => he.isError_eq_false

theorem countP_accuses (h : s.graph.WellFormed) (hd : d ∈ s.graph.scannedTypes) :
    s.plan.diagnostics.countP (·.accuses d) =
      if s.isCandidate d && !s.reaches d then 1 else 0 := by
  have hreports := filter_diagnostics_perm h (·.accuses d) fun e he => he.accuses_eq_false d
  calc s.plan.diagnostics.countP (·.accuses d)
      = s.inaccessibleCandidates.countP (·.accuses d) := by
        rw [List.countP_eq_length_filter, List.countP_eq_length_filter, hreports.length_eq]
    _ = (s.lostCandidates.map Declaration.placement).count d.placement := by
        rw [inaccessibleCandidates_eq, List.countP_map, List.count, List.countP_map]
        congr 1
        funext e
        exact Diagnostic.accuses_about_iff
    _ = if s.isCandidate d && !s.reaches d then 1 else 0 := count_placement_filter h hd _

/-- The places of what a role contributes are those of the declarations that play it. -/
theorem placements_perm {α : Type} (role : Role) (make : Declaration → Option α)
    (place : α → Placement)
    (hmake : ∀ d, s.plays d role = true → ∃ a, make d = some a ∧ place a = d.placement) :
    ((s.plannedTypes.flatMap fun d => if s.plays d role then (make d).toList else []).map
      place).Perm ((s.graph.scannedTypes.filter (s.plays · role)).map Declaration.placement) := by
  have hsome : ∀ d, s.plays d role = true → (make d).isSome := fun d hplays => by
    obtain ⟨a, ha, -⟩ := hmake d hplays
    exact Option.isSome_iff_exists.mpr ⟨a, ha⟩
  have hmade := List.forall₂_filter_flatMap (s.plays · role) make s.plannedTypes hsome
  have hplaces : (s.plannedTypes.filter (s.plays · role)).map Declaration.placement = _ :=
    hmade.map_eq_map fun d a ⟨hplays, ha⟩ => by
      obtain ⟨b, hb, hplace⟩ := hmake d hplays
      obtain rfl := Option.some.inj (ha.symm.trans hb)
      exact hplace.symm
  rw [← hplaces]
  exact (s.plannedTypes_perm.filter _).map _

/-- Sorted, what a role contributes has one entry for a declaration that plays it, and none for
    another. -/
theorem countP_placement {α : Type} (h : s.graph.WellFormed) (hd : d ∈ s.graph.scannedTypes)
    (role : Role) (make : Declaration → Option α) (place : α → Placement)
    (hmake : ∀ d, s.plays d role = true → ∃ a, make d = some a ∧ place a = d.placement)
    (cmp : α → α → Ordering) :
    ((s.plannedTypes.flatMap fun e => if s.plays e role then (make e).toList else []).sortBy
      cmp).countP (place · == d.placement) = if s.plays d role then 1 else 0 := by
  have hplaces := ((List.sortBy_perm cmp _).map place).trans
    (placements_perm role make place hmake)
  rw [← count_placement_filter h hd (s.plays · role), ← hplaces.count_eq, List.count,
    List.countP_map]
  rfl

theorem countP_services (h : s.graph.WellFormed) (hd : d ∈ s.graph.scannedTypes) :
    s.plan.services.countP (·.placement == d.placement) = if s.plays d .service then 1 else 0 := by
  have hcount := countP_placement h hd .service s.service? Service.placement (fun e hplays => by
    obtain ⟨c, hc⟩ := Option.isSome_iff_exists.mp (isSome_construction?_of_plays hplays)
    exact ⟨_, by rw [service?, hc, Option.map_some], rfl⟩)
    (Placement.orderOn s.graph.current Service.placement)
  rw [← services_allFindings] at hcount
  exact hcount

theorem countP_plugins (h : s.graph.WellFormed) (hd : d ∈ s.graph.scannedTypes) :
    s.plan.plugins.countP (·.placement == d.placement) = if s.plays d .plugin then 1 else 0 := by
  have hcount := countP_placement h hd .plugin (fun e => some (s.pluginOf e)) Plugin.placement
    (fun e _ => ⟨_, rfl, rfl⟩) (Placement.orderOn s.graph.current Plugin.placement)
  simp only [Option.toList_some] at hcount
  rw [← plugins_allFindings] at hcount
  exact hcount

/-- What counts as a candidate lies in a namespace that is planned, and could be a service or a
    plugin. -/
theorem isCandidate_iff :
    s.isCandidate d = true ↔
      s.covers d = true ∧ (s.isInjectableCandidate d = true ∨ s.isPluginCandidate d = true) := by
  rw [isCandidate, Bool.and_eq_true, Bool.or_eq_true]

/-- A candidate within reach plays one of the two roles, one out of reach plays neither. -/
theorem plays_add_plays (hcandidate : s.isCandidate d = true) :
    (if s.plays d .service then 1 else 0) + (if s.plays d .plugin then 1 else 0) +
      (if s.isCandidate d && !s.reaches d then 1 else 0) = 1 := by
  obtain ⟨hcovers, heither⟩ := isCandidate_iff.mp hcandidate
  -- A service implements no plugin interface, a plugin does
  have hnotboth : ¬ (s.isInjectableCandidate d = true ∧ s.isPluginCandidate d = true) := by
    rintro ⟨hinject, hplugin⟩
    simp only [isInjectableCandidate, isPluginCandidate, Bool.and_eq_true,
      Bool.not_eq_true'] at hinject hplugin
    rw [hplugin.2] at hinject
    exact Bool.false_ne_true hinject.1.2.symm
  simp only [plays, admits, fits, hcovers, hcandidate, Bool.true_and]
  cases s.reaches d with
  | false => simp
  | true =>
      cases hinject : s.isInjectableCandidate d <;> cases hplugin : s.isPluginCandidate d <;>
        simp_all

end Survey

/-! ## What a pass says about the candidates -/

namespace Generation

/-- A pass speaks of every candidate in one place, as a service, as a plugin or in one report, and
    fails with the reports, which are those of the candidates that are lost. A candidate lies in a
    namespace that is planned and has the shape of a service or of a plugin, reachable or not. -/
structure AccountsFor (gen : Generation) (s : Survey) (lost : List Declaration) : Prop where
  one_place : ∀ d ∈ s.graph.scannedTypes, s.covers d = true →
    s.isInjectableCandidate d = true ∨ s.isPluginCandidate d = true →
      gen.plan.services.countP (·.placement == d.placement) +
        gen.plan.plugins.countP (·.placement == d.placement) +
        gen.diagnostics.countP (·.accuses d) = 1
  nodup_lost : lost.Nodup
  mem_lost : ∀ d, d ∈ lost ↔
    d ∈ s.graph.scannedTypes ∧ s.covers d = true ∧
      (s.isInjectableCandidate d = true ∨ s.isPluginCandidate d = true) ∧ s.reaches d = false
  errors : (gen.diagnostics.filter Diagnostic.isError).Perm
    (lost.map fun d => .about d .inaccessibleCandidate [d.name, d.moduleName])
  error_count : gen.diagnostics.countP Diagnostic.isError = lost.length
  checked : gen.checked =
    if lost.isEmpty then .ok gen
    else .error (.errorsReported (gen.diagnostics.filter Diagnostic.isError))

/-- A pass fails unless it has no errors, and does so with the errors that it has. -/
theorem checked_eq_of_errors_perm (gen : Generation) {errors : List Diagnostic}
    (hperm : (gen.diagnostics.filter Diagnostic.isError).Perm errors) :
    gen.checked =
      if errors.isEmpty then .ok gen
      else .error (.errorsReported (gen.diagnostics.filter Diagnostic.isError)) := by
  have hnone : gen.hasErrors = !errors.isEmpty := by
    rw [hasErrors, ← hperm.isEmpty_eq, Bool.eq_iff_iff]
    simp
  rw [Generation.checked, hnone]
  cases errors.isEmpty <;> rfl

end Generation

/-- A pass over a graph that passes the check accounts for every candidate, whatever renders it. -/
theorem run_accounts_for_candidates (r : Renderer) (o : Options) (g : Graph)
    (hvalid : g.validate = .ok ()) :
    ∃ gen lost, Generation.run r o g = .ok gen ∧ g.plan o = .ok gen.plan ∧
      gen.AccountsFor ⟨g, o⟩ lost := by
  have hwf := Graph.validate_eq_ok_iff.mp hvalid
  have hplan := Graph.plan_eq_ok hvalid o
  let s : Survey := ⟨g, o⟩
  let gen : Generation := ⟨s.plan, r.artifacts o s.plan⟩
  have hperm : (gen.diagnostics.filter Diagnostic.isError).Perm s.inaccessibleCandidates :=
    Survey.errors_perm hwf
  have hlost : s.lostCandidates.Nodup := (Survey.nodup_placements_filter hwf _).of_map _
  refine ⟨gen, s.lostCandidates, ?_, hplan, ?_, hlost, ?_, hperm, ?_, ?_⟩
  · rw [Generation.run, hplan]
    rfl
  · -- One place for each candidate
    intro d hd hcovers heither
    have hcandidate : s.isCandidate d = true := Survey.isCandidate_iff.mpr ⟨hcovers, heither⟩
    rw [Survey.countP_services hwf hd, Survey.countP_plugins hwf hd]
    exact (congrArg _ (Survey.countP_accuses hwf hd)).trans (Survey.plays_add_plays hcandidate)
  · intro d
    rw [Survey.lostCandidates, List.mem_filter, Bool.and_eq_true, Survey.isCandidate_iff,
      Bool.not_eq_true', and_assoc]
  · -- One error for each candidate that is lost
    rw [List.countP_eq_length_filter]
    exact hperm.length_eq.trans (List.length_map ..)
  · rw [Generation.checked_eq_of_errors_perm gen hperm, Survey.inaccessibleCandidates_eq,
      List.isEmpty_map]

/-- Nothing can name the outbox, so the pass reports it, and fails with this one report. -/
theorem mailShop_accounts_for_candidates :
    Graph.mailShop.validate = .ok () ∧
      ∃ gen, Generation.run .json {} Graph.mailShop = .ok gen ∧
        Graph.mailShop.plan {} = .ok gen.plan ∧
        gen.AccountsFor ⟨Graph.mailShop, {}⟩ [.outbox] ∧
        gen.checked = .error (.errorsReported
          [.about .outbox .inaccessibleCandidate ["App.Outbox", "App"]]) := by
  have hvalid : Graph.mailShop.validate = .ok () := by decide
  obtain ⟨gen, lost, hrun, hplan, haccounts⟩ :=
    run_accounts_for_candidates .json {} Graph.mailShop hvalid
  -- Of the two types, the outbox is the one that is lost
  have hlost : lost = [.outbox] := by
    refine List.perm_singleton.mp ((List.perm_ext_iff_of_nodup haccounts.nodup_lost
      (List.nodup_singleton _)).mpr fun d => ?_)
    rw [haccounts.mem_lost, List.mem_singleton]
    refine ⟨fun ⟨hd, _, _, hreaches⟩ => ?_, ?_⟩
    · rcases List.mem_pair.mp hd with rfl | rfl
      · exact absurd hreaches (by decide)
      · rfl
    · rintro rfl
      decide
  rw [hlost] at haccounts
  refine ⟨hvalid, gen, hrun, hplan, haccounts, ?_⟩
  rw [haccounts.checked, List.perm_singleton.mp haccounts.errors]
  rfl

end Wiring
