/-
  Wiring.Proofs.Interception

  Which methods a proxy intercepts, and by what. Markers of a type ask for interceptors around all
  its methods, markers of a method for more around that one. However often the same interceptor is
  asked for, it runs once, as far outside as any of the markers says. Where there are methods to
  intercept there is a proxy, or a diagnostic if no interface is left to proxy.
-/

import Wiring.Plan.Basic
import Wiring.Proofs.Graph.WellFormed
import Wiring.Proofs.Listing.Lowest

namespace Wiring

/-! ## What is asked for -/

namespace Declaration

/-- A marker of the type or of the method asks for the interceptor at the place. -/
def Intercepts (d : Declaration) (m : Method) (interceptor : TypeRef) (place : Int32) : Prop :=
  .intercept interceptor place ∈ d.markers ++ m.markers

/-- A public method of the instances, for which an interceptor is asked. -/
structure IsIntercepted (d : Declaration) (m : Method) : Prop where
  isPublic : m.accessibility = .anyone
  isOfInstance : m.isStatic = false
  isAskedFor : ∃ interceptor place, d.Intercepts m interceptor place

/-- All interceptors of the method run, each of them once and at the lowest of its places, in the
    order of the places; texts decide between those at one place. -/
structure RunsAround (d : Declaration) (m : Method) (uses : List InterceptorUse) : Prop where
  all : ∀ interceptor, interceptor ∈ uses.map (·.interceptor) ↔
    ∃ place, d.Intercepts m interceptor place
  once : (uses.map (·.interceptor)).Nodup
  lowest : ∀ use ∈ uses, IsLeast {place | d.Intercepts m use.interceptor place} use.order
  sorted : uses.Pairwise fun a b =>
    a.order < b.order ∨ a.order = b.order ∧ a.interceptor.text ≤ b.interceptor.text

variable {d : Declaration} {m : Method} {interfaces : List TypeRef}

theorem isSome_interceptor?_iff {marker : Marker} :
    marker.interceptor?.isSome = true ↔
      ∃ interceptor place, marker = .intercept interceptor place := by
  cases marker <;> simp [Marker.interceptor?]

theorem mem_interceptorsOf_iff {use : InterceptorUse} :
    use ∈ d.interceptorsOf m ↔ d.Intercepts m use.interceptor use.order := by
  rw [interceptorsOf, List.mem_filterMap]
  refine ⟨?_, fun h => ⟨_, h, rfl⟩⟩
  rintro ⟨marker, hmem, huse⟩
  obtain ⟨interceptor, place, rfl⟩ := isSome_interceptor?_iff.mp (Option.isSome_of_eq_some huse)
  obtain rfl := Option.some.inj huse
  exact hmem

theorem interceptorsOf_isEmpty_eq_false_iff :
    (d.interceptorsOf m).isEmpty = false ↔
      ∃ interceptor place, d.Intercepts m interceptor place := by
  rw [List.isEmpty_eq_false_iff_exists_mem]
  simp only [mem_interceptorsOf_iff]
  refine ⟨?_, ?_⟩
  · rintro ⟨use, h⟩
    exact ⟨_, _, h⟩
  · rintro ⟨interceptor, place, h⟩
    exact ⟨⟨interceptor, place⟩, h⟩

/-! ## The methods -/

theorem isIntercepted_iff :
    (m.accessibility == .anyone && !m.isStatic && !(d.interceptorsOf m).isEmpty) = true ↔
      d.IsIntercepted m := by
  rw [Bool.and_eq_true, Bool.and_eq_true, Bool.not_eq_true', Bool.not_eq_true', beq_iff_eq,
    interceptorsOf_isEmpty_eq_false_iff]
  refine ⟨?_, ?_⟩
  · rintro ⟨⟨hpublic, hinstance⟩, hasked⟩
    exact ⟨hpublic, hinstance, hasked⟩
  · rintro ⟨hpublic, hinstance, hasked⟩
    exact ⟨⟨hpublic, hinstance⟩, hasked⟩

instance (d : Declaration) (m : Method) : Decidable (d.IsIntercepted m) :=
  decidable_of_iff _ isIntercepted_iff

theorem interceptedMethods_eq_filter :
    d.interceptedMethods = d.methods.filter (d.IsIntercepted ·) := by
  unfold interceptedMethods
  apply List.filter_congr
  intro m _
  rw [Bool.eq_iff_iff, decide_eq_true_iff, isIntercepted_iff]

theorem interceptedMethods_isEmpty_eq_false_iff :
    d.interceptedMethods.isEmpty = false ↔ ∃ m ∈ d.methods, d.IsIntercepted m := by
  rw [List.isEmpty_eq_false_iff_exists_mem, interceptedMethods_eq_filter]
  simp only [List.mem_filter, decide_eq_true_iff]

/-- A type with an intercepted method has interceptors. -/
theorem hasInterceptors_of_interceptedMethods (h : d.interceptedMethods.isEmpty = false) :
    d.hasInterceptors = true := by
  obtain ⟨m, hm, -, -, interceptor, place, hmem⟩ := interceptedMethods_isEmpty_eq_false_iff.mp h
  unfold hasInterceptors
  rw [Bool.or_eq_true, List.any_eq_true, List.any_eq_true]
  rcases List.mem_append.mp hmem with htype | hmethod
  · exact .inl ⟨_, htype, rfl⟩
  · exact .inr ⟨m, hm, List.any_eq_true.mpr ⟨_, hmethod, rfl⟩⟩

/-! ## The interceptors of a method -/

theorem outermostFirst_eq (uses : List InterceptorUse) :
    InterceptorUse.outermostFirst uses =
      uses.lowestFirst (·.order) (·.interceptor.text) (·.interceptor) := rfl

theorem runsAround_proxiedMethod (d : Declaration) (m : Method) :
    d.RunsAround m (d.proxiedMethod m).interceptors := by
  rw [proxiedMethod, outermostFirst_eq]
  constructor
  case all =>
    intro interceptor
    rw [List.mem_map_lowestFirst_iff]
    simp only [mem_interceptorsOf_iff]
    refine ⟨?_, ?_⟩
    · rintro ⟨use, huse, rfl⟩
      exact ⟨use.order, huse⟩
    · rintro ⟨place, hasked⟩
      exact ⟨⟨interceptor, place⟩, hasked, rfl⟩
  case once => exact List.nodup_map_lowestFirst
  case lowest =>
    intro use huse
    obtain ⟨⟨other, hother, hsame, horder⟩, hlowest⟩ := List.isLeast_of_mem_lowestFirst huse
    refine ⟨?_, ?_⟩
    · show d.Intercepts m use.interceptor use.order
      rw [← hsame, ← horder]
      exact mem_interceptorsOf_iff.mp hother
    · intro place hasked
      exact hlowest ⟨⟨use.interceptor, place⟩, mem_interceptorsOf_iff.mpr hasked, rfl, rfl⟩
  case sorted => exact List.pairwise_lowestFirst

/-! ## The proxy -/

/-- There is a proxy if there are methods to intercept and interfaces to proxy. It runs the
    interceptors around these methods, in the order in which they are declared. Methods without an
    interface are reported, and nothing else is. -/
structure PlansProxy (d : Declaration) (interfaces : List TypeRef) (proxy : Option Proxy)
    (diagnostics : List Diagnostic) : Prop where
  isSome_iff : proxy.isSome = true ↔ (∃ m ∈ d.methods, d.IsIntercepted m) ∧ interfaces ≠ []
  placed : ∀ p, proxy = some p → p.placement = d.placement ∧ p.interfaces = interfaces
  methods : ∀ p, proxy = some p → List.Forall₂
    (fun (m : Method) (q : ProxiedMethod) => q.name = m.name ∧ d.RunsAround m q.interceptors)
    (d.methods.filter (d.IsIntercepted ·)) p.methods
  reported : diagnostics =
    if (∃ m ∈ d.methods, d.IsIntercepted m) ∧ interfaces = [] then
      [.about d .interceptedWithoutInterface [d.name]]
    else []

theorem isSome_proxy?_iff :
    (d.proxy? interfaces).isSome = true ↔
      d.interceptedMethods.isEmpty = false ∧ interfaces.isEmpty = false := by
  unfold proxy?
  cases d.interceptedMethods.isEmpty <;> cases interfaces.isEmpty <;> simp

/-- A proxy stands where its declaration does, implements the interfaces, and lists the methods. -/
theorem of_proxy?_eq_some {proxy : Proxy} (h : d.proxy? interfaces = some proxy) :
    proxy.placement = d.placement ∧ proxy.interfaces = interfaces ∧
      proxy.methods = d.interceptedMethods.map d.proxiedMethod := by
  unfold proxy? at h
  split at h
  · cases h
  · obtain rfl := Option.some.inj h
    exact ⟨rfl, rfl, rfl⟩

end Declaration

/-- Interception is planned for all methods that it is asked for and can be done, and for no
    others. -/
theorem interception_is_planned (d : Declaration) (interfaces : List TypeRef) :
    d.PlansProxy interfaces (d.proxy? interfaces) (d.proxyDiagnostics interfaces) := by
  have hmethods := d.interceptedMethods_isEmpty_eq_false_iff
  constructor
  case isSome_iff =>
    rw [Declaration.isSome_proxy?_iff, hmethods, ne_eq, ← List.isEmpty_iff, Bool.not_eq_true]
  case placed =>
    intro p hp
    obtain ⟨hplace, hinterfaces, -⟩ := Declaration.of_proxy?_eq_some hp
    exact ⟨hplace, hinterfaces⟩
  case methods =>
    intro p hp
    obtain ⟨-, -, hlisted⟩ := Declaration.of_proxy?_eq_some hp
    rw [hlisted, Declaration.interceptedMethods_eq_filter, List.forall₂_map_right_iff,
      List.forall₂_same]
    intro m _
    exact ⟨rfl, d.runsAround_proxiedMethod m⟩
  case reported =>
    unfold Declaration.proxyDiagnostics
    simp only [Bool.and_eq_true, Bool.not_eq_true', hmethods, List.isEmpty_iff]

/-- A ledger of which all work is audited. -/
def Declaration.auditedLedger : Declaration :=
  { ofClass "App" "App.Ledger" with
    markers := [.intercept (.ofClass "App.Audit") 5]
    methods := [{ name := "Post" }, { name := "Seal", accessibility := .owner },
      { name := "Open", isStatic := true }, { name := "Read" }] }

/-- Two methods of the ledger can be intercepted, which its proxy lists; without an interface there
    is a report instead. -/
theorem auditedLedger_is_planned :
    (Declaration.auditedLedger.methods.filter (Declaration.auditedLedger.IsIntercepted ·)).map
        (·.name) = ["Post", "Read"] ∧
      (∃ proxy, Declaration.auditedLedger.proxy? [.ofInterface "App.ILedger"] = some proxy ∧
        proxy.methods.map (·.name) = ["Post", "Read"]) ∧
      Declaration.auditedLedger.proxyDiagnostics [] =
        [.about .auditedLedger .interceptedWithoutInterface ["App.Ledger"]] := by
  have hnames : (Declaration.auditedLedger.methods.filter
      (Declaration.auditedLedger.IsIntercepted ·)).map (·.name) = ["Post", "Read"] := by decide
  have hsome : ∃ m ∈ Declaration.auditedLedger.methods,
      Declaration.auditedLedger.IsIntercepted m := by decide
  have hproxied := interception_is_planned .auditedLedger [.ofInterface "App.ILedger"]
  have hplain := interception_is_planned .auditedLedger []
  refine ⟨hnames, ?_, ?_⟩
  · obtain ⟨proxy, hproxy⟩ :=
      Option.isSome_iff_exists.mp (hproxied.isSome_iff.mpr ⟨hsome, List.cons_ne_nil _ _⟩)
    refine ⟨proxy, hproxy, ?_⟩
    have hsame : List.Forall₂ Eq ((Declaration.auditedLedger.methods.filter
        (Declaration.auditedLedger.IsIntercepted ·)).map (·.name)) (proxy.methods.map (·.name)) := by
      rw [List.forall₂_map_left_iff, List.forall₂_map_right_iff]
      exact (hproxied.methods proxy hproxy).imp fun m q h => h.1.symm
    rw [List.forall₂_eq_eq_eq] at hsame
    rw [← hsame, hnames]
  · rw [hplain.reported, if_pos ⟨hsome, rfl⟩]
    rfl

end Wiring
