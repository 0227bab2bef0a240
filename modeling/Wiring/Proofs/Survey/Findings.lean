/-
  Wiring.Proofs.Survey.Findings

  Where the findings of a pass come from. Each list of findings is collected module by module,
  declaration by declaration and role by role; the lemmas here read it off the planned
  declarations directly, one role at a time. The planned declarations are those of the scanned
  modules in another order, so in a well-formed graph no two of them stand at the same place.
-/

import Wiring.Plan.OfGraph
import Wiring.Proofs.Interception
import Wiring.Proofs.Listing.Outcomes
import Wiring.Proofs.Listing.Sorted
import Mathlib.Data.List.Flatten
import Mathlib.Data.List.Forall2

namespace List

variable {α β γ : Type}

theorem flatMap_filter (p : α → Bool) (f : α → List β) (xs : List α) :
    (xs.filter p).flatMap f = xs.flatMap fun a => if p a then f a else [] := by
  induction xs with
  | nil => rfl
  | cons x rest ih =>
      rw [filter_cons, flatMap_cons, ← ih]
      split
      · rw [flatMap_cons]
      · rw [nil_append]

/-- What is made of the elements that qualify belongs to them one by one. -/
theorem forall₂_filter_flatMap (p : α → Bool) (f : α → Option β) (xs : List α)
    (hsome : ∀ a, p a = true → (f a).isSome) :
    Forall₂ (fun a b => p a = true ∧ f a = some b) (xs.filter p)
      (xs.flatMap fun a => if p a then (f a).toList else []) := by
  induction xs with
  | nil => exact .nil
  | cons x rest ih =>
      rw [filter_cons, flatMap_cons]
      split
      · rename_i hx
        obtain ⟨b, hb⟩ := Option.isSome_iff_exists.mp (hsome x hx)
        rw [hb]
        exact .cons ⟨hx, hb⟩ ih
      · exact ih

/-- Lists whose elements belong together agree in what belonging together fixes. -/
theorem Forall₂.map_eq_map {r : α → β → Prop} {f : α → γ} {g : β → γ} {xs : List α} {ys : List β}
    (h : Forall₂ r xs ys) (hfix : ∀ a b, r a b → f a = g b) : xs.map f = ys.map g := by
  induction h with
  | nil => rfl
  | cons hab _ ih => rw [map_cons, map_cons, hfix _ _ hab, ih]

/-- An element of the second list belongs together with one of the first. -/
theorem Forall₂.exists_left {r : α → β → Prop} {xs : List α} {ys : List β} (h : Forall₂ r xs ys)
    {b : β} (hb : b ∈ ys) : ∃ a ∈ xs, r a b := by
  induction h with
  | nil => cases hb
  | cons hab _ ih =>
      rcases mem_cons.mp hb with rfl | hrest
      · exact ⟨_, mem_cons_self .., hab⟩
      · obtain ⟨a, ha, hr⟩ := ih hrest
        exact ⟨a, mem_cons_of_mem _ ha, hr⟩

end List

namespace Wiring

namespace Graph

/-- A graph that passes the check is planned. -/
theorem plan_eq_ok {g : Graph} (hvalid : g.validate = .ok ()) (o : Options) :
    g.plan o = .ok (Survey.plan ⟨g, o⟩) := by
  rw [Graph.plan, hvalid]
  rfl

/-- What such a graph is planned as is the plan of its survey. -/
theorem eq_plan_of_plan_eq_ok {g : Graph} {o : Options} {p : Plan} (hvalid : g.validate = .ok ())
    (hp : g.plan o = .ok p) : p = Survey.plan ⟨g, o⟩ := by
  rw [plan_eq_ok hvalid, Except.ok.injEq] at hp
  exact hp.symm

/-- The declarations of the scanned modules. -/
def scannedTypes (g : Graph) : List Declaration := g.scanned.flatMap (·.types)

theorem mem_scannedTypes {g : Graph} {d : Declaration} :
    d ∈ g.scannedTypes ↔
      ∃ m ∈ g.modules, (m.name = g.current ∨ m.participates = true) ∧ d ∈ m.types := by
  simp only [scannedTypes, scanned, isCurrent, List.mem_flatMap, List.mem_filter,
    Bool.or_eq_true, beq_iff_eq, and_assoc, eq_comm (a := g.current)]

theorem scannedTypes_sublist (g : Graph) : g.scannedTypes.Sublist g.types :=
  List.filter_sublist.flatMap _

/-- No two scanned declarations of a well-formed graph stand at the same place. -/
theorem WellFormed.nodup_scanned {g : Graph} (h : g.WellFormed) :
    (g.scannedTypes.map Declaration.placement).Nodup :=
  h.nodup_placements.sublist (g.scannedTypes_sublist.map _)

/-- A scanned declaration of a well-formed graph is known by its place. -/
theorem WellFormed.eq_of_placement_eq {g : Graph} (h : g.WellFormed) {d e : Declaration}
    (hd : d ∈ g.scannedTypes) (he : e ∈ g.scannedTypes) (hplace : d.placement = e.placement) :
    d = e :=
  List.inj_on_of_nodup_map h.nodup_scanned hd he hplace

end Graph

namespace Declaration

variable {d : Declaration}

theorem placement_of_factory? {interfaces : List TypeRef} {factory : Factory}
    (h : d.factory? interfaces = some factory) : factory.placement = d.placement := by
  obtain ⟨c, -, rfl⟩ := Option.map_eq_some_iff.mp h
  rfl

/-- A proxy stands where the type does. -/
theorem placement_of_proxy? {interfaces : List TypeRef} {proxy : Proxy}
    (h : d.proxy? interfaces = some proxy) : proxy.placement = d.placement :=
  (of_proxy?_eq_some h).1

end Declaration

namespace Survey

variable (s : Survey)

/-- The declarations that are planned, in the order of the planned modules. -/
def plannedTypes : List Declaration := s.plannedModules.flatMap (·.types)

theorem plannedTypes_perm : s.plannedTypes.Perm s.graph.scannedTypes :=
  (List.sortBy_perm _ _).flatMap_right _

theorem mem_plannedTypes {s : Survey} {d : Declaration} :
    d ∈ s.plannedTypes ↔ d ∈ s.graph.scannedTypes :=
  s.plannedTypes_perm.mem_iff

/-! ## From all findings to the declarations -/

/-- A part of the findings that is collected in order is collected declaration by declaration. -/
theorem allFindings_part {α : Type} (part : Findings → List α)
    (hjoin : ∀ name parts, part (.join name parts) = parts.flatMap part) :
    part s.allFindings = s.plannedTypes.flatMap fun d => (s.findingsIn d).flatMap part := by
  unfold allFindings findings plannedTypes
  simp only [hjoin, List.flatMap_map, List.flatMap_assoc]

/-- What the roles of a declaration contribute is collected from all roles that it plays. -/
theorem flatMap_contribution {α : Type} (part : Findings → List α) (d : Declaration) :
    ((s.roles d).map (s.contribution d)).flatMap part =
      Role.all.flatMap fun role => if s.plays d role then part (s.contribution d role) else [] := by
  rw [roles, List.flatMap_map, List.flatMap_filter]

/-- A part of the findings that only one role contributes to is what that role contributes. -/
theorem findingsIn_part {α : Type} (part : Findings → List α) (role : Role) (d : Declaration)
    (hlost : part (s.lostDecorators d) = [])
    (hother : ∀ other, other ≠ role → part (s.contribution d other) = []) :
    (s.findingsIn d).flatMap part =
      if s.plays d role then part (s.contribution d role) else [] := by
  rw [findingsIn, List.flatMap_cons, hlost, List.nil_append, flatMap_contribution]
  cases role <;> simp [Role.all, hother]

/-- A part of all findings that only one role contributes to is collected from the declarations
    that play it. -/
theorem allFindings_part_of_role {α : Type} (part : Findings → List α) (role : Role)
    (hjoin : ∀ name parts, part (.join name parts) = parts.flatMap part)
    (hlost : ∀ d, part (s.lostDecorators d) = [])
    (hother : ∀ d other, other ≠ role → part (s.contribution d other) = []) :
    part s.allFindings =
      s.plannedTypes.flatMap fun d =>
        if s.plays d role then part (s.contribution d role) else [] := by
  rw [s.allFindings_part part hjoin]
  congr 1
  funext d
  exact s.findingsIn_part part role d (hlost d) (hother d)

/-- What is collected from the declarations that play a role comes from one of them. -/
theorem mem_flatMap_plays {α : Type} {s : Survey} {role : Role} {make : Declaration → List α}
    {a : α} :
    (a ∈ s.plannedTypes.flatMap fun d => if s.plays d role then make d else []) ↔
      ∃ d ∈ s.graph.scannedTypes, s.plays d role = true ∧ a ∈ make d := by
  simp only [List.mem_flatMap, List.mem_ite_nil_right, mem_plannedTypes]

/-- What is sorted into a plan was made of a declaration. -/
theorem exists_declaration_of_mem_sortBy {α : Type} {s : Survey} {found : List α} {role : Role}
    {make : Declaration → List α} {cmp : α → α → Ordering} {a : α}
    (hfound : found = s.plannedTypes.flatMap fun d => if s.plays d role then make d else [])
    (ha : a ∈ found.sortBy cmp) : ∃ d ∈ s.graph.scannedTypes, a ∈ make d := by
  rw [List.mem_sortBy, hfound, mem_flatMap_plays] at ha
  obtain ⟨d, hd, -, hmade⟩ := ha
  exact ⟨d, hd, hmade⟩

/-! ## The parts that a role contributes -/

theorem services_allFindings :
    s.allFindings.services =
      s.plannedTypes.flatMap fun d => if s.plays d .service then (s.service? d).toList else [] :=
  s.allFindings_part_of_role (·.services) .service (fun _ _ => rfl) (fun _ => rfl)
    fun _ other hne => by cases other <;> first | rfl | exact absurd rfl hne

theorem plugins_allFindings :
    s.allFindings.plugins =
      s.plannedTypes.flatMap fun d => if s.plays d .plugin then [s.pluginOf d] else [] :=
  s.allFindings_part_of_role (·.plugins) .plugin (fun _ _ => rfl) (fun _ => rfl)
    fun _ other hne => by cases other <;> first | rfl | exact absurd rfl hne

theorem decorators_allFindings :
    s.allFindings.decorators =
      s.plannedTypes.flatMap fun d =>
        if s.plays d .decorator then d.decorators.successes else [] :=
  s.allFindings_part_of_role (·.decorators) .decorator (fun _ _ => rfl) (fun _ => rfl)
    fun _ other hne => by cases other <;> first | rfl | exact absurd rfl hne

theorem openDecorators_allFindings :
    s.allFindings.openDecorators =
      s.plannedTypes.flatMap fun d =>
        if s.plays d .openDecorator then d.openDecorators.successes else [] :=
  s.allFindings_part_of_role (·.openDecorators) .openDecorator (fun _ _ => rfl) (fun _ => rfl)
    fun _ other hne => by cases other <;> first | rfl | exact absurd rfl hne

theorem factories_allFindings :
    s.allFindings.factories =
      s.plannedTypes.flatMap fun d =>
        if s.plays d .factorySource then (d.factory? (s.exposedInterfaces d)).toList else [] :=
  s.allFindings_part_of_role (·.factories) .factorySource (fun _ _ => rfl) (fun _ => rfl)
    fun _ other hne => by cases other <;> first | rfl | exact absurd rfl hne

theorem bindings_allFindings :
    s.allFindings.bindings =
      s.plannedTypes.flatMap fun d =>
        if s.plays d .configuration then d.bindings s.graph else [] :=
  s.allFindings_part_of_role (·.bindings) .configuration (fun _ _ => rfl) (fun _ => rfl)
    fun _ other hne => by cases other <;> first | rfl | exact absurd rfl hne

theorem proxies_allFindings :
    s.allFindings.proxies =
      s.plannedTypes.flatMap fun d =>
        if s.plays d .intercepted then (d.proxy? (s.exposedInterfaces d)).toList else [] :=
  s.allFindings_part_of_role (·.proxies) .intercepted (fun _ _ => rfl) (fun _ => rfl)
    fun _ other hne => by cases other <;> first | rfl | exact absurd rfl hne

/-! ## Places -/

theorem placement_of_service? {s : Survey} {d : Declaration} {service : Service}
    (h : s.service? d = some service) : service.placement = d.placement := by
  obtain ⟨c, -, rfl⟩ := Option.map_eq_some_iff.mp h
  rfl

variable {s : Survey} (h : s.graph.WellFormed)
include h

theorem nodup_plannedTypes : (s.plannedTypes.map Declaration.placement).Nodup :=
  (s.plannedTypes_perm.map _).nodup_iff.mpr h.nodup_scanned

/-- What is made of the planned declarations stands at different places, if one thing at most is
    made of each and stands where it does. -/
theorem nodup_places {α : Type} {role : Role} {make : Declaration → List α} {place : α → Placement}
    (hmake : ∀ d, ((make d).map place).Sublist [d.placement]) :
    ((s.plannedTypes.flatMap fun d => if s.plays d role then make d else []).map place).Nodup := by
  have hsub : ((s.plannedTypes.flatMap fun d => if s.plays d role then make d else []).map
      place).Sublist (s.plannedTypes.flatMap fun d => [d.placement]) := by
    rw [List.map_flatMap]
    refine List.Sublist.flatMap_right _ fun d _ => ?_
    split
    · exact hmake d
    · exact List.nil_sublist _
  have hsingle : (s.plannedTypes.flatMap fun d => [d.placement]) =
      s.plannedTypes.map Declaration.placement := List.map_eq_flatMap.symm
  exact (hsingle ▸ nodup_plannedTypes h).sublist hsub

theorem nodup_services : (s.allFindings.services.map Service.placement).Nodup := by
  rw [services_allFindings]
  refine nodup_places h fun d => ?_
  unfold service?
  cases d.construction? with
  | none => exact List.nil_sublist _
  | some construction => exact List.Sublist.refl _

theorem nodup_plugins : (s.allFindings.plugins.map Plugin.placement).Nodup := by
  rw [plugins_allFindings]
  exact nodup_places h fun d => List.Sublist.refl _

theorem nodup_factories : (s.allFindings.factories.map Factory.placement).Nodup := by
  rw [factories_allFindings]
  refine nodup_places h fun d => ?_
  unfold Declaration.factory?
  cases d.factoryConstruction? with
  | none => exact List.nil_sublist _
  | some construction => exact List.Sublist.refl _

theorem nodup_proxies : (s.allFindings.proxies.map Proxy.placement).Nodup := by
  rw [proxies_allFindings]
  refine nodup_places h fun d => ?_
  unfold Declaration.proxy?
  split
  · exact List.nil_sublist _
  · exact List.Sublist.refl _

end Survey
end Wiring
