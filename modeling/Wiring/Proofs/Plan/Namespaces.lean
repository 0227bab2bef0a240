/-
  Wiring.Proofs.Plan.Namespaces

  What the choice of namespaces does to a plan. A declaration outside of the namespaces plays no
  role, and nothing that is found in another declaration reads its roles: which interfaces belong to
  plugins is told by all declarations, planned or not. So of what is planned without a choice, the
  entries in the namespaces are left, as they are and in their order.
-/

import Wiring.Proofs.Plan.Proxies
import Wiring.Proofs.Plan.StrictOrder
import Wiring.Proofs.Survey.Candidates

namespace Wiring

/-- The options with other namespaces. -/
def Options.within (o : Options) (scopes : List String) : Options := { o with namespaces := scopes }

/-- The name of the type that a diagnostic is about, which is its first argument. -/
def Diagnostic.typeName (e : Diagnostic) : String := e.args.headD ""

/-- The candidates that a plan reports as out of reach. -/
def Plan.unreached (p : Plan) : List Diagnostic :=
  p.diagnostics.filter (·.problem == .inaccessibleCandidate)

/-- The plan `p` lists what the plan `q` lists of types whose names are covered, unchanged and in
    the same order. -/
structure Plan.Restricts (p q : Plan) (covers : String → Bool) : Prop where
  services : p.services = q.services.filter (covers ·.name)
  plugins : p.plugins = q.plugins.filter (covers ·.name)
  factories : p.factories = q.factories.filter (covers ·.product)
  proxies : p.proxies = q.proxies.filter (covers ·.service)
  unreached : p.unreached = q.unreached.filter (covers ·.typeName)

namespace Survey

variable (g : Graph) (o : Options) (scopes : List String)

/-- A declaration plays a role in a choice of namespaces if it lies in one of them and plays the
    role without a choice. -/
theorem plays_within (d : Declaration) (role : Role) :
    (mk g (o.within scopes)).plays d role =
      ((mk g (o.within [])).plays d role && (o.within scopes).coversName d.name) := by
  have hfits : (mk g (o.within scopes)).fits d role = (mk g (o.within [])).fits d role := by
    cases role <;> rfl
  have hadmits : (mk g (o.within scopes)).admits d =
      ((mk g (o.within [])).admits d && (o.within scopes).coversName d.name) :=
    Bool.and_comm ..
  rw [plays, plays, hfits, hadmits, Bool.and_right_comm]

/-- A part of the findings that one role makes of the declarations, each at the place of its
    declaration, is sorted in a choice of namespaces to what it is sorted to without a choice, less
    the entries outside of them. -/
theorem sortBy_part_within {α : Type} (part : Findings → List α) (place : α → Placement)
    {role : Role} {make : Declaration → List α}
    (hchosen : part (mk g (o.within scopes)).allFindings =
      (mk g (o.within scopes)).plannedTypes.flatMap fun d =>
        if (mk g (o.within scopes)).plays d role then make d else [])
    (hall : part (mk g (o.within [])).allFindings =
      (mk g (o.within [])).plannedTypes.flatMap fun d =>
        if (mk g (o.within [])).plays d role then make d else [])
    (hplace : ∀ d, ∀ a ∈ make d, place a = d.placement) :
    (part (mk g (o.within scopes)).allFindings).sortBy (Placement.orderOn g.current place) =
      ((part (mk g (o.within [])).allFindings).sortBy
        (Placement.orderOn g.current place)).filter
          fun a => (o.within scopes).coversName (place a).typeName := by
  rw [hchosen, hall, List.filter_sortBy_comm, List.filter_flatMap]
  -- The same declarations are planned in the same order, so it is a matter of each of them
  congr 2
  funext d
  have hmade : (make d).filter (fun a => (o.within scopes).coversName (place a).typeName) =
      if (o.within scopes).coversName d.name then make d else [] := by
    have hname : ∀ a ∈ make d, (place a).typeName = d.name :=
      fun a ha => congrArg Placement.typeName (hplace d a ha)
    rw [List.filter_congr fun a ha => congrArg (o.within scopes).coversName (hname a ha)]
    split <;> simp [*]
  rw [plays_within, apply_ite (List.filter _), hmade, List.filter_nil]
  cases (mk g (o.within [])).plays d role <;> simp

/-- The candidates that are lost in a choice of namespaces are those that are lost without a choice
    and lie in one of them. -/
theorem inaccessibleCandidates_within :
    (mk g (o.within scopes)).inaccessibleCandidates =
      (mk g (o.within [])).inaccessibleCandidates.filter fun e =>
        (o.within scopes).coversName e.typeName := by
  have hlost : ∀ d, ((mk g (o.within scopes)).isCandidate d &&
        !(mk g (o.within scopes)).reaches d) =
      ((o.within scopes).coversName d.name &&
        ((mk g (o.within [])).isCandidate d && !(mk g (o.within [])).reaches d)) := by
    intro d
    exact Bool.and_assoc ..
  rw [inaccessibleCandidates_eq, inaccessibleCandidates_eq, lostCandidates, lostCandidates,
    List.filter_map, List.filter_filter, List.filter_congr fun d _ => hlost d]
  rfl

/-- The candidates that a plan reports as out of reach are those that the check finds, in order. -/
theorem unreached_plan (s : Survey) :
    s.plan.unreached = Diagnostic.inOrder s.inaccessibleCandidates := by
  have hadvice : ∀ e : Diagnostic, e.IsAdvice → ¬ (e.problem == .inaccessibleCandidate) = true := by
    rintro _ ⟨problem, args, place, hne, rfl⟩
    simpa [Diagnostic.of] using hne
  have hfound : s.allFindings.diagnostics.filter (·.problem == .inaccessibleCandidate) = [] :=
    List.filter_eq_nil_iff.mpr fun e he => hadvice e (isAdvice_of_mem_allFindings he)
  have hsilent : s.silentModules.filter (·.problem == .inaccessibleCandidate) = [] :=
    List.filter_eq_nil_iff.mpr fun e he => hadvice e (isAdvice_of_mem_silentModules he)
  have hcheck : s.inaccessibleCandidates.filter (·.problem == .inaccessibleCandidate) =
      s.inaccessibleCandidates := by
    refine List.filter_eq_self.mpr fun e he => ?_
    obtain ⟨d, -, rfl⟩ := List.mem_map.mp he
    rfl
  have hdiagnostics : s.plan.diagnostics =
      (s.allFindings.diagnostics ++ s.check).sortDistinct Diagnostic.order := rfl
  rw [Plan.unreached, hdiagnostics, List.filter_sortDistinct, check, List.filter_append,
    List.filter_append, hfound, hsilent, hcheck, List.nil_append, List.append_nil]
  rfl

end Survey

/-! ## The plan -/

/-- Planning only some namespaces restricts the plan to the entries in these namespaces. -/
theorem plan_restricts_to_namespaces (g : Graph) (o : Options) (scopes : List String)
    (hvalid : g.validate = .ok ()) :
    ∃ p q, g.plan (o.within scopes) = .ok p ∧ g.plan (o.within []) = .ok q ∧
      p.Restricts q (o.within scopes).coversName := by
  let s : Survey := ⟨g, o.within scopes⟩
  let t : Survey := ⟨g, o.within []⟩
  refine ⟨s.plan, t.plan, Graph.plan_eq_ok hvalid _, Graph.plan_eq_ok hvalid _, ?_, ?_, ?_, ?_, ?_⟩
  · exact Survey.sortBy_part_within g o scopes (·.services) Service.placement
      s.services_allFindings t.services_allFindings fun d a ha =>
        Survey.placement_of_service? (Option.mem_toList.mp ha)
  · exact Survey.sortBy_part_within g o scopes (·.plugins) Plugin.placement
      s.plugins_allFindings t.plugins_allFindings fun d a ha =>
        congrArg Plugin.placement (List.mem_singleton.mp ha)
  · exact Survey.sortBy_part_within g o scopes (·.factories) Factory.placement
      s.factories_allFindings t.factories_allFindings fun d a ha =>
        Declaration.placement_of_factory? (Option.mem_toList.mp ha)
  · exact Survey.sortBy_part_within g o scopes (·.proxies) Proxy.placement
      s.proxies_allFindings t.proxies_allFindings fun d a ha =>
        Declaration.placement_of_proxy? (Option.mem_toList.mp ha)
  · -- Sorting without repetition and picking commute
    rw [Survey.unreached_plan, Survey.unreached_plan, Survey.inaccessibleCandidates_within]
    exact (List.filter_sortDistinct Diagnostic.order _ _).symm

/-- Of the parcel service the choice of the vans leaves what stands in them, and drops the rest of
    each list. -/
theorem parcelPost_restricts_to_namespaces :
    Graph.parcelPost.validate = .ok () ∧
      ∃ p q, Graph.parcelPost.plan (Options.scanning.within ["Vans"]) = .ok p ∧
        Graph.parcelPost.plan (Options.scanning.within []) = .ok q ∧
        p.Restricts q (Options.scanning.within ["Vans"]).coversName ∧ q.ListsParcels ∧
        p.services.map Service.placement = [⟨"Vans", "Vans.Truck"⟩] ∧
        p.plugins.map Plugin.placement = [⟨"Vans", "Vans.Laser"⟩] ∧
        p.factories.map Factory.placement = [⟨"Vans", "Vans.Trip"⟩] ∧
        p.proxies.map Proxy.placement = [⟨"Vans", "Vans.Truck"⟩] ∧
        q.unreached.map Diagnostic.typeName = ["Maps.Draft"] ∧ p.unreached = [] := by
  have hvalid : Graph.parcelPost.validate = .ok () := by decide
  obtain ⟨p, q, hp, hq, hrestricts⟩ :=
    plan_restricts_to_namespaces Graph.parcelPost .scanning ["Vans"] hvalid
  have hlists : q.ListsParcels :=
    Graph.eq_plan_of_plan_eq_ok hvalid hq ▸ Survey.listsParcels_plan
  have hunreached : q.unreached =
      [.of .inaccessibleCandidate ["Maps.Draft", "Maps"] (.codeModule "Maps")] := by
    rw [Plan.unreached, hlists.diagnostics]
    decide +kernel
  -- An entry stays if the type at its place lies in the vans
  let inVans (place : Placement) : Bool :=
    (Options.scanning.within ["Vans"]).coversName place.typeName
  have hplaces : ∀ {α : Type} (place : α → Placement) (xs : List α),
      (xs.filter fun a => inVans (place a)).map place = (xs.map place).filter inVans := by
    intro α place xs
    rw [List.filter_map]
    rfl
  refine ⟨hvalid, p, q, hp, hq, hrestricts, hlists, ?_, ?_, ?_, ?_, ?_, ?_⟩
  · rw [hrestricts.services]
    refine (hplaces Service.placement q.services).trans ?_
    rw [hlists.services]
    decide +kernel
  · rw [hrestricts.plugins]
    refine (hplaces Plugin.placement q.plugins).trans ?_
    rw [hlists.plugins]
    decide +kernel
  · rw [hrestricts.factories]
    refine (hplaces Factory.placement q.factories).trans ?_
    rw [hlists.factories]
    decide +kernel
  · rw [hrestricts.proxies]
    refine (hplaces Proxy.placement q.proxies).trans ?_
    rw [hlists.proxies]
    decide +kernel
  · rw [hunreached]
    rfl
  · rw [hrestricts.unreached, hunreached]
    decide +kernel

end Wiring
