/-
  Wiring.Proofs.Plan.Proxies

  Which proxy a registered service gets. A proxy is looked up by the name of its service, whereas
  names are unique in each module only. So every service gets its own proxy, and none where it has
  none, exactly if no registered type shares its name with a proxied type of another module.
-/

import Wiring.Proofs.Survey.Registration

namespace Wiring

/-! ## The rule, read off the declarations -/

/-- A public method of the instances has an interceptor, and there is an interface to proxy. -/
structure Declaration.IsProxied (d : Declaration) (o : Options) : Prop where
  intercepted : ∃ m ∈ d.methods, m.accessibility = .anyone ∧ m.isStatic = false ∧
    ∃ interceptor place, .intercept interceptor place ∈ d.markers ++ m.markers
  exposed : ∃ i ∈ d.interfaces, i.isOpen = false ∧ i.name ∉ o.ignoredInterfaces

/-- What is found as the proxy of a service is the proxy that stands where the service does. -/
def Plan.GivesOwnProxies (p : Plan) : Prop :=
  ∀ service ∈ p.services, ∀ proxy,
    p.proxyFor? service.name = some proxy ↔
      proxy ∈ p.proxies ∧ proxy.placement = service.placement

/-! ## Looking a proxy up -/

namespace Plan

variable {p : Plan}

theorem service_eq_of_proxyFor? {name : String} {proxy : Proxy}
    (h : p.proxyFor? name = some proxy) : proxy ∈ p.proxies ∧ proxy.service = name := by
  have hname := List.find?_some h
  exact ⟨List.mem_of_find?_eq_some h, beq_iff_eq.mp hname⟩

theorem exists_proxyFor? {proxy : Proxy} (h : proxy ∈ p.proxies) :
    ∃ found, p.proxyFor? proxy.service = some found := by
  have hsome : (p.proxyFor? proxy.service).isSome := by
    unfold proxyFor?
    rw [List.find?_isSome]
    exact ⟨proxy, h, beq_self_eq_true _⟩
  exact Option.isSome_iff_exists.mp hsome

/-- If every proxy has its service, the services get their own proxies if the names of the services
    tell them apart as far as there are proxies. -/
theorem givesOwnProxies_iff (hnodup : (p.proxies.map Proxy.placement).Nodup)
    (hservice : ∀ proxy ∈ p.proxies, ∃ service ∈ p.services, service.placement = proxy.placement) :
    p.GivesOwnProxies ↔
      ∀ service ∈ p.services, ∀ proxy ∈ p.proxies, proxy.service = service.name →
        proxy.placement = service.placement := by
  refine ⟨?_, ?_⟩
  · -- Two services of one name get the same proxy
    intro hown service hs proxy hp hname
    obtain ⟨found, hfound⟩ := exists_proxyFor? hp
    obtain ⟨other, ho, hplace⟩ := hservice proxy hp
    have hother : other.name = proxy.service := congrArg Placement.typeName hplace
    have hfoundOther := ((hown other ho found).mp (hother ▸ hfound)).2
    have hfoundService := ((hown service hs found).mp (hname ▸ hfound)).2
    rw [← hplace, ← hfoundOther, hfoundService]
  · intro hapart service hs proxy
    refine ⟨?_, ?_⟩
    · intro hfound
      obtain ⟨hmem, hname⟩ := service_eq_of_proxyFor? hfound
      exact ⟨hmem, hapart service hs proxy hmem hname⟩
    · rintro ⟨hmem, hplace⟩
      have hname : proxy.service = service.name := congrArg Placement.typeName hplace
      obtain ⟨found, hfound⟩ := exists_proxyFor? hmem
      rw [hname] at hfound
      obtain ⟨hfoundMem, hfoundName⟩ := service_eq_of_proxyFor? hfound
      -- What is found stands where the service does, and so does the proxy
      have hsame : found.placement = proxy.placement := by
        rw [hapart service hs found hfoundMem hfoundName, hplace]
      rw [hfound, List.inj_on_of_nodup_map hnodup hfoundMem hmem hsame]

end Plan

/-! ## The proxies of a plan -/

namespace Declaration

variable {d : Declaration}

/-- A method is intercepted exactly if the rule says so. -/
theorem interceptedMethods_isEmpty_eq_false_iff_exists :
    d.interceptedMethods.isEmpty = false ↔
      ∃ m ∈ d.methods, m.accessibility = .anyone ∧ m.isStatic = false ∧
        ∃ interceptor place, .intercept interceptor place ∈ d.markers ++ m.markers := by
  rw [interceptedMethods_isEmpty_eq_false_iff]
  refine exists_congr fun m => and_congr_right fun _ => ⟨?_, ?_⟩
  · rintro ⟨hpublic, hinstance, hasked⟩
    exact ⟨hpublic, hinstance, hasked⟩
  · rintro ⟨hpublic, hinstance, hasked⟩
    exact ⟨hpublic, hinstance, hasked⟩

end Declaration

namespace Survey

variable {s : Survey} {d : Declaration}

/-- What is proxied is a service. -/
theorem plays_service_of_plays_intercepted (h : s.plays d .intercepted = true) :
    s.plays d .service = true := by
  simp only [plays, fits, Bool.and_eq_true] at h ⊢
  exact ⟨h.1, h.2.1⟩

theorem exposedInterfaces_isEmpty_eq_false_iff (hplays : s.plays d .service = true) :
    (s.exposedInterfaces d).isEmpty = false ↔
      ∃ i ∈ d.interfaces, i.isOpen = false ∧ i.name ∉ s.options.ignoredInterfaces := by
  have htexts := exposedInterfaces_texts hplays
  rw [Declaration.interfaceTexts] at htexts
  rw [← List.isEmpty_map (f := TypeRef.text), htexts, List.isEmpty_eq_false_iff_exists_mem]
  simp only [List.mem_eraseDups, List.mem_map, List.mem_filter, Bool.and_eq_true,
    Bool.not_eq_true', ← Bool.not_eq_true, List.contains_iff_mem]
  refine ⟨?_, ?_⟩
  · rintro ⟨-, i, hi, -⟩
    exact ⟨i, hi⟩
  · rintro ⟨i, hi⟩
    exact ⟨i.text, i, hi, rfl⟩

/-- A proxy is made of the registrable types that are proxied. -/
theorem plays_intercepted_and_isSome_proxy?_iff (hd : d ∈ s.graph.scannedTypes) :
    s.plays d .intercepted = true ∧ (d.proxy? (s.exposedInterfaces d)).isSome = true ↔
      s.graph.Registrable s.options d ∧ d.IsProxied s.options := by
  rw [Declaration.isSome_proxy?_iff]
  refine ⟨?_, ?_⟩
  · rintro ⟨hplays, hmethods, hinterfaces⟩
    have hservice := plays_service_of_plays_intercepted hplays
    exact ⟨(plays_service_iff hd).mp hservice,
      Declaration.interceptedMethods_isEmpty_eq_false_iff_exists.mp hmethods,
      (exposedInterfaces_isEmpty_eq_false_iff hservice).mp hinterfaces⟩
  · rintro ⟨hregistrable, hintercepted, hexposed⟩
    have hservice := (plays_service_iff hd).mpr hregistrable
    have hmethods := Declaration.interceptedMethods_isEmpty_eq_false_iff_exists.mpr hintercepted
    refine ⟨?_, hmethods, (exposedInterfaces_isEmpty_eq_false_iff hservice).mpr hexposed⟩
    simp only [plays, fits, Bool.and_eq_true] at hservice ⊢
    exact ⟨hservice.1, hservice.2, Declaration.hasInterceptors_of_interceptedMethods hmethods⟩

/-- The proxies of a plan stand where the registrable types that are proxied do. -/
theorem mem_placements_proxies_iff {place : Placement} :
    place ∈ s.plan.proxies.map Proxy.placement ↔
      ∃ d, s.graph.Registrable s.options d ∧ d.IsProxied s.options ∧ d.placement = place := by
  have hsorted : ∀ proxy, proxy ∈ s.plan.proxies ↔ proxy ∈ s.allFindings.proxies :=
    fun _ => (List.sortBy_perm _ _).mem_iff
  simp only [List.mem_map, hsorted, proxies_allFindings, List.mem_flatMap, List.mem_ite_nil_right,
    Option.mem_toList, mem_plannedTypes]
  refine ⟨?_, ?_⟩
  · rintro ⟨proxy, ⟨d, hd, hplays, hproxy⟩, rfl⟩
    have hrule := (plays_intercepted_and_isSome_proxy?_iff hd).mp
      ⟨hplays, Option.isSome_of_eq_some hproxy⟩
    exact ⟨d, hrule.1, hrule.2, (Declaration.placement_of_proxy? hproxy).symm⟩
  · rintro ⟨d, hregistrable, hproxied, rfl⟩
    have hd : d ∈ s.graph.scannedTypes := Graph.mem_scannedTypes.mpr hregistrable.scanned
    obtain ⟨hplays, hsome⟩ :=
      (plays_intercepted_and_isSome_proxy?_iff hd).mpr ⟨hregistrable, hproxied⟩
    obtain ⟨proxy, hproxy⟩ := Option.isSome_iff_exists.mp hsome
    exact ⟨proxy, ⟨d, hd, hplays, hproxy⟩, Declaration.placement_of_proxy? hproxy⟩

/-- The services of a plan stand where the registrable types do. -/
theorem mem_placements_services_iff {place : Placement} :
    place ∈ s.plan.services.map Service.placement ↔
      ∃ d, s.graph.Registrable s.options d ∧ d.placement = place := by
  obtain ⟨types, hperm, hentries⟩ := s.exists_types_of_services
  have hplaces : types.map Declaration.placement = s.plan.services.map Service.placement := by
    refine hentries.map_eq_map fun d service h => ?_
    obtain ⟨c, -, rfl⟩ := Option.map_eq_some_iff.mp h.2
    rfl
  rw [← hplaces, List.mem_map]
  simp only [hperm.mem_iff, List.mem_filter]
  refine ⟨?_, ?_⟩
  · rintro ⟨d, ⟨hd, hplays⟩, rfl⟩
    exact ⟨d, (plays_service_iff hd).mp hplays, rfl⟩
  · rintro ⟨d, hregistrable, rfl⟩
    have hd : d ∈ s.graph.scannedTypes := Graph.mem_scannedTypes.mpr hregistrable.scanned
    exact ⟨d, ⟨hd, (plays_service_iff hd).mpr hregistrable⟩, rfl⟩

end Survey

/-! ## The proxies that services get -/

/-- The services of a plan get their own proxies exactly if no registrable type has the name of a
    proxied one of another module. -/
theorem plan_gives_own_proxies_iff (g : Graph) (o : Options) (hvalid : g.validate = .ok ()) :
    ∃ p, g.plan o = .ok p ∧
      (p.GivesOwnProxies ↔
        ∀ d e, g.Registrable o d → d.IsProxied o → g.Registrable o e → d.name = e.name →
          d.moduleName = e.moduleName) := by
  let s : Survey := ⟨g, o⟩
  have hproxies {place : Placement} : place ∈ s.plan.proxies.map Proxy.placement ↔
      ∃ d, g.Registrable o d ∧ d.IsProxied o ∧ d.placement = place :=
    Survey.mem_placements_proxies_iff
  have hservices {place : Placement} : place ∈ s.plan.services.map Service.placement ↔
      ∃ d, g.Registrable o d ∧ d.placement = place :=
    Survey.mem_placements_services_iff
  have hnodup : (s.plan.proxies.map Proxy.placement).Nodup :=
    ((List.sortBy_perm _ _).map _).nodup_iff.mpr
      (Survey.nodup_proxies (Graph.validate_eq_ok_iff.mp hvalid))
  have hservice : ∀ proxy ∈ s.plan.proxies,
      ∃ service ∈ s.plan.services, service.placement = proxy.placement := by
    intro proxy hproxy
    obtain ⟨d, hregistrable, -, hplace⟩ := hproxies.mp (List.mem_map_of_mem hproxy)
    exact List.mem_map.mp (hservices.mpr ⟨d, hregistrable, hplace⟩)
  refine ⟨s.plan, Graph.plan_eq_ok hvalid o, ?_⟩
  rw [Plan.givesOwnProxies_iff hnodup hservice]
  refine ⟨?_, ?_⟩
  · intro hapart d e hd hproxied he hname
    obtain ⟨proxy, hp, hproxyPlace⟩ := List.mem_map.mp (hproxies.mpr ⟨d, hd, hproxied, rfl⟩)
    obtain ⟨service, hs, hservicePlace⟩ := List.mem_map.mp (hservices.mpr ⟨e, he, rfl⟩)
    have hproxyName : proxy.service = d.name := congrArg Placement.typeName hproxyPlace
    have hserviceName : service.name = e.name := congrArg Placement.typeName hservicePlace
    have hplace := hapart service hs proxy hp (by rw [hproxyName, hserviceName, hname])
    rw [hproxyPlace, hservicePlace] at hplace
    exact congrArg Placement.moduleName hplace
  · intro hapart service hs proxy hp hname
    obtain ⟨d, hd, hproxied, hproxyPlace⟩ := hproxies.mp (List.mem_map_of_mem hp)
    obtain ⟨e, he, hservicePlace⟩ := hservices.mp (List.mem_map_of_mem hs)
    have hnames : d.name = e.name := by
      rw [← show proxy.service = d.name from congrArg Placement.typeName hproxyPlace.symm,
        ← show service.name = e.name from congrArg Placement.typeName hservicePlace.symm, hname]
    rw [← hproxyPlace, ← hservicePlace, Declaration.placement, Declaration.placement, hnames,
      hapart d e hd hproxied he hnames]

/-! ## Two clocks -/

/-- A clock behind an interface. -/
def Declaration.clock (moduleName name : String) : Declaration :=
  ((ofClass moduleName name).implementing (.ofInterface "App.IClock")).withMethod
    { name := "Tick" }

/-- A clock of which each tick is traced. -/
def Declaration.tracedClock : Declaration :=
  (clock "App" "App.Clock").withMarker (.intercept (.ofClass "App.Trace") 0)

/-- A build with a traced clock, and another clock in a module that takes part. -/
def Graph.clocks (backup : String) : Graph where
  current := "App"
  modules :=
    [{ name := "App", types := [.tracedClock] },
      { name := "Backup", participates := true, types := [.clock "Backup" backup] }]

theorem Graph.mem_scannedTypes_clocks {backup : String} {d : Declaration} :
    d ∈ (clocks backup).scannedTypes ↔ d = .tracedClock ∨ d = .clock "Backup" backup := by
  have htypes : (clocks backup).scannedTypes = [.tracedClock, .clock "Backup" backup] := rfl
  rw [htypes, List.mem_cons, List.mem_singleton]

/-- The container constructs both clocks. -/
theorem Graph.registrable_clocks {backup : String} {d : Declaration}
    (hd : d ∈ (clocks backup).scannedTypes) : (clocks backup).Registrable {} d := by
  have hmarkers : ∀ m ∈ d.markers, m = .intercept (.ofClass "App.Trace") 0 := by
    intro m hm
    rcases mem_scannedTypes_clocks.mp hd with rfl | rfl
    · exact List.mem_singleton.mp hm
    · cases hm
  have hplain : ∀ i : TypeRef, ¬ (clocks backup).IsPluginContract {} i.name := by
    rintro i (⟨c, hc, hkind, -⟩ | hmem)
    · rcases mem_scannedTypes_clocks.mp hc with rfl | rfl <;> cases hkind
    · cases hmem
  have hother : ∀ m : Marker, m ≠ .intercept (.ofClass "App.Trace") 0 → m ∉ d.markers :=
    fun m hne hm => hne (hmarkers m hm)
  have hscanned := mem_scannedTypes.mp hd
  have hpublic : d.kind = .classType ∧ d.accessChain = [.anyone] ∧ d.isAbstract = false ∧
      d.isStatic = false ∧ d.typeParameters = [] ∧ d.constructors = [] := by
    rcases mem_scannedTypes_clocks.mp hd with rfl | rfl <;> exact ⟨rfl, rfl, rfl, rfl, rfl, rfl⟩
  obtain ⟨hkind, haccess, habstract, hstatic, htypes, hconstructors⟩ := hpublic
  exact {
    scanned := hscanned
    covered := rfl
    reachable := .inl (by simp [haccess])
    instantiable := ⟨.inl hkind, habstract, hstatic⟩
    plain := htypes
    not_exempt := ⟨hother _ nofun, hother _ nofun⟩
    not_decorator := fun _ _ => ⟨hother _ nofun, hother _ nofun⟩
    not_factory := hother _ nofun
    not_configuration := fun _ => hother _ nofun
    not_plugin := fun i _ => hplain i
    constructible := .inl hconstructors }

/-- With clocks of different names, each gets its own proxy or none. -/
theorem clocks_give_own_proxies :
    (Graph.clocks "Backup.Clock").validate = .ok () ∧
      ∃ p, (Graph.clocks "Backup.Clock").plan {} = .ok p ∧ p.GivesOwnProxies := by
  have hvalid : (Graph.clocks "Backup.Clock").validate = .ok () := by decide
  obtain ⟨p, hp, hiff⟩ := plan_gives_own_proxies_iff _ {} hvalid
  refine ⟨hvalid, p, hp, hiff.mpr ?_⟩
  intro d e hd hproxied he hname
  rcases Graph.mem_scannedTypes_clocks.mp (Graph.mem_scannedTypes.mpr hd.scanned) with rfl | rfl <;>
    rcases Graph.mem_scannedTypes_clocks.mp (Graph.mem_scannedTypes.mpr he.scanned) with rfl | rfl
  · rfl
  · exact absurd hname (by decide)
  · exact absurd hname (by decide)
  · rfl

/-- If both clocks have the same name, the one that is not traced gets the proxy of the other. -/
theorem clocks_share_a_proxy :
    (Graph.clocks "App.Clock").validate = .ok () ∧
      ∃ p, (Graph.clocks "App.Clock").plan {} = .ok p ∧
        ∃ service ∈ p.services, service.moduleName = "Backup" ∧
          ∃ proxy, p.proxyFor? service.name = some proxy ∧ proxy.moduleName = "App" := by
  have hvalid : (Graph.clocks "App.Clock").validate = .ok () := by decide
  have htraced : Declaration.tracedClock.IsProxied {} :=
    ⟨⟨{ name := "Tick" }, by decide, rfl, rfl, .ofClass "App.Trace", 0, by decide⟩,
      .ofInterface "App.IClock", by decide, rfl, by decide⟩
  have hplain : ¬ (Declaration.clock "Backup" "App.Clock").IsProxied {} := by
    rintro ⟨⟨m, hm, -, -, interceptor, place, hmem⟩, -⟩
    obtain rfl := List.mem_singleton.mp hm
    cases hmem
  let s : Survey := ⟨.clocks "App.Clock", {}⟩
  have hproxies {place : Placement} : place ∈ s.plan.proxies.map Proxy.placement ↔
      ∃ d, s.graph.Registrable {} d ∧ d.IsProxied {} ∧ d.placement = place :=
    Survey.mem_placements_proxies_iff
  have hservices {place : Placement} : place ∈ s.plan.services.map Service.placement ↔
      ∃ d, s.graph.Registrable {} d ∧ d.placement = place :=
    Survey.mem_placements_services_iff
  refine ⟨hvalid, s.plan, Graph.plan_eq_ok hvalid {}, ?_⟩
  obtain ⟨service, hs, hservice⟩ := List.mem_map.mp (hservices.mpr
    ⟨.clock "Backup" "App.Clock",
      Graph.registrable_clocks (Graph.mem_scannedTypes_clocks.mpr (.inr rfl)), rfl⟩)
  obtain ⟨proxy, hp, hproxy⟩ := List.mem_map.mp (hproxies.mpr
    ⟨.tracedClock, Graph.registrable_clocks (Graph.mem_scannedTypes_clocks.mpr (.inl rfl)),
      htraced, rfl⟩)
  have hname : proxy.service = service.name := by
    rw [show proxy.service = "App.Clock" from congrArg Placement.typeName hproxy,
      show service.name = "App.Clock" from congrArg Placement.typeName hservice]
  obtain ⟨found, hfound⟩ := Plan.exists_proxyFor? hp
  refine ⟨service, hs, congrArg Placement.moduleName hservice, found, hname ▸ hfound, ?_⟩
  -- Whatever is found was made of a traced clock
  obtain ⟨d, hd, hproxied, hplace⟩ :=
    hproxies.mp (List.mem_map_of_mem (Plan.service_eq_of_proxyFor? hfound).1)
  rcases Graph.mem_scannedTypes_clocks.mp (Graph.mem_scannedTypes.mpr hd.scanned) with rfl | rfl
  · exact (congrArg Placement.moduleName hplace).symm
  · exact absurd hproxied hplain

end Wiring
