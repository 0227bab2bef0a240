/-
  Wiring.Proofs.Plan.TypeOrder

  What of a plan depends on the order in which the modules list their types. What is found is the
  same up to the order, and the lists of a plan are sorted by an order that tells the types apart;
  only the bindings of one type may tie, and these stand in the order of its markers in any case. Of
  the diagnostics, those of silent modules name the first plugin that is listed.
-/

import Wiring.Proofs.Configuration.Coercion
import Wiring.Proofs.Diagnostic.Order
import Wiring.Proofs.Graph.TypeOrder
import Wiring.Proofs.Plan.Order
import Wiring.Proofs.Survey.SameTypes

namespace List

variable {α β : Type}

/-- Of elements of which one at most yields anything, the same is collected in any order. -/
theorem Perm.flatMap_eq {f : α → List β} {xs ys : List α} (hperm : xs.Perm ys)
    (hone : ∀ a ∈ xs, ∀ b ∈ xs, f a ≠ [] → f b ≠ [] → a = b) : xs.flatMap f = ys.flatMap f := by
  induction hperm with
  | nil => rfl
  | cons x _ ih =>
      rw [flatMap_cons, flatMap_cons,
        ih fun a ha b hb => hone a (mem_cons_of_mem _ ha) b (mem_cons_of_mem _ hb)]
  | swap x y rest =>
      simp only [flatMap_cons, ← append_assoc]
      by_cases hx : f x = []
      · rw [hx, append_nil, nil_append]
      · by_cases hy : f y = []
        · rw [hy, append_nil, nil_append]
        · -- Both yield something, so they are the same element
          rw [hone x (by simp) y (by simp) hx hy]
  | trans hxy _ ihxy ihyz =>
      rw [ihxy hone, ihyz fun a ha b hb =>
        hone a (hxy.mem_iff.mpr ha) b (hxy.mem_iff.mpr hb)]

end List

namespace Wiring

/-- A declaration of which a binding is not told apart from another stands where that one does. -/
theorem Declaration.placement_eq_of_ties {g : Graph} {d : Declaration} {a : Binding}
    {current : String} {plays : Prop} [Decidable plays] {p : Binding → Bool}
    (hties : (if plays then d.bindings g else []).filter
      (fun b => List.ties (Binding.order current) a b && p b) ≠ []) :
    d.placement = a.placement := by
  obtain ⟨b, hb⟩ := List.exists_mem_of_ne_nil _ hties
  obtain ⟨hmem, hpicked⟩ := List.mem_filter.mp hb
  obtain ⟨request, -, rfl⟩ := List.mem_map.mp (List.mem_ite_nil_right.mp hmem).2
  have htie := List.ties_iff.mp (Bool.and_eq_true_iff.mp hpicked).1
  exact (Binding.placement_eq_of_order_eq htie).symm

namespace Survey

variable {g g' : Graph} (h : g.ReordersTypes g') (o : Options)
include h

/-! ## Findings -/

theorem plannedTypes_perm_of_reordersTypes :
    (mk g o).plannedTypes.Perm (mk g' o).plannedTypes := by
  have hplanned : (mk g o).plannedTypes.Perm g.scannedTypes := plannedTypes_perm _
  have hplanned' : (mk g' o).plannedTypes.Perm g'.scannedTypes := plannedTypes_perm _
  exact hplanned.trans (h.scannedTypes_perm.trans hplanned'.symm)

/-- A part of all findings other than the bindings is the same up to the order. -/
theorem allFindings_part_perm_of_reordersTypes {α : Type} (part : Findings → List α)
    (hjoin : ∀ name parts, part (.join name parts) = parts.flatMap part)
    (hbindings : ∀ f bindings, part { f with bindings } = part f) :
    (part (mk g o).allFindings).Perm (part (mk g' o).allFindings) := by
  rw [allFindings_part _ part hjoin, allFindings_part _ part hjoin,
    funext (findingsIn_part_eq_of_declaresSame h.declaresSame o part hbindings)]
  exact (plannedTypes_perm_of_reordersTypes h o).flatMap_right _

/-! ## Bindings -/

/-- The bindings found, given what a declaration is bound as. -/
theorem bindings_allFindings_of_reordersTypes (hwf : g.WellFormed) :
    (mk g' o).allFindings.bindings =
      (mk g' o).plannedTypes.flatMap fun d =>
        if (mk g o).plays d .configuration then d.bindings g else [] := by
  have hbindings : ∀ d : Declaration, d.bindings g' = d.bindings g := by
    intro d
    unfold Declaration.bindings Declaration.binding
    rw [Graph.boundProperties_eq_of_lookup_eq (h.lookup_eq hwf)]
  simp only [bindings_allFindings, hbindings, plays_eq_of_declaresSame h.declaresSame]

/-- The bindings that are kept are the same, in the same order. -/
theorem plan_bindings_eq_of_reordersTypes (hwf : g.WellFormed) :
    (mk g o).plan.bindings = (mk g' o).plan.bindings := by
  have hfound : (mk g o).allFindings.bindings = (mk g o).plannedTypes.flatMap fun d =>
      if (mk g o).plays d .configuration then d.bindings g else [] :=
    bindings_allFindings _
  have hfound' := bindings_allFindings_of_reordersTypes h o hwf
  have htypes := plannedTypes_perm_of_reordersTypes h o
  have hperm : (mk g o).allFindings.bindings.Perm (mk g' o).allFindings.bindings := by
    rw [hfound, hfound']
    exact htypes.flatMap_right _
  -- The same bindings are covered, wherever those that cover them are found
  have hcovered : ∀ b : Binding,
      (mk g o).allFindings.bindings.any (fun other => other.covered.contains b.boundType) =
        (mk g' o).allFindings.bindings.any fun other => other.covered.contains b.boundType := by
    intro b
    rw [Bool.eq_iff_iff, List.any_eq_true, List.any_eq_true]
    simp only [hperm.mem_iff]
  change (Binding.removeNested (mk g o).allFindings.bindings).sortBy (Binding.order g.current) =
    (Binding.removeNested (mk g' o).allFindings.bindings).sortBy (Binding.order g'.current)
  rw [← h.current]
  refine List.sortBy_eq_of_filter_ties ?_ fun a => ?_
  · unfold Binding.removeNested
    simp only [hcovered]
    exact hperm.filter _
  · -- Bindings that tie are those of one type
    unfold Binding.removeNested
    simp only [hcovered, List.filter_filter]
    rw [hfound, hfound', List.filter_flatMap, List.filter_flatMap]
    refine htypes.flatMap_eq fun d hd e he hdties heties => ?_
    have hplace := nodup_plannedTypes (s := mk g o) hwf
    refine List.inj_on_of_nodup_map hplace hd he ?_
    rw [Declaration.placement_eq_of_ties hdties, Declaration.placement_eq_of_ties heties]

/-! ## Diagnostics -/

/-- The diagnostics that are not about silent modules are the same. -/
theorem plan_diagnostics_filter_eq_of_reordersTypes :
    (mk g o).plan.diagnostics.filter (·.problem != .moduleNotParticipating) =
      (mk g' o).plan.diagnostics.filter (·.problem != .moduleNotParticipating) := by
  have hfound := allFindings_part_perm_of_reordersTypes h o (·.diagnostics) (fun _ _ => rfl)
    fun _ _ => rfl
  have hunreached := mem_inaccessibleCandidates_iff_of_declaresSame h.declaresSame o
    fun _ => h.scannedTypes_perm.mem_iff
  have hsilent : ∀ s : Survey, ∀ d ∈ s.silentModules, d.problem = .moduleNotParticipating := by
    intro s d hd
    obtain ⟨m, -, hm⟩ := List.mem_filterMap.mp hd
    unfold silentPlugins at hm
    split at hm
    · cases hm
    · rw [← Option.some.inj hm]
      rfl
  have hdiagnostics : ∀ s : Survey, s.plan.diagnostics =
      (s.allFindings.diagnostics ++ s.check).sortDistinct Diagnostic.order := fun _ => rfl
  rw [hdiagnostics, hdiagnostics, List.filter_sortDistinct, List.filter_sortDistinct]
  refine List.sortDistinct_eq_of_mem_iff fun d => ?_
  simp only [check, List.mem_filter, List.mem_append, hfound.mem_iff, hunreached, bne_iff_ne]
  -- The diagnostics of silent modules are left out on both sides
  refine and_congr_left fun hother => or_congr_right (or_congr_right ?_)
  exact iff_of_false (fun hd => hother (hsilent _ d hd)) fun hd => hother (hsilent _ d hd)

end Survey

/-! ## The plan -/

/-- Two orders of the types inside the modules give plans that are the same but for their chains and
    the diagnostics about silent modules. -/
theorem plan_eq_of_reordered_types (g g' : Graph) (o : Options) (hvalid : g.validate = .ok ())
    (hreorders : g.ReordersTypes g') :
    ∃ p p', g.plan o = .ok p ∧ g'.plan o = .ok p' ∧
      p' = { p with chains := p'.chains, diagnostics := p'.diagnostics } ∧
      p'.diagnostics.filter (·.problem != .moduleNotParticipating) =
        p.diagnostics.filter (·.problem != .moduleNotParticipating) := by
  have hwf := Graph.validate_eq_ok_iff.mp hvalid
  have hvalid' := Graph.validate_eq_ok_iff.mpr (hreorders.wellFormed hwf)
  let s : Survey := ⟨g, o⟩
  let s' : Survey := ⟨g', o⟩
  -- What is found once for each type at most is sorted by where the types stand
  have hsorted : ∀ {α : Type} (part : Findings → List α) (place : α → Placement),
      (∀ name parts, part (.join name parts) = parts.flatMap part) →
      (∀ f bindings, part { f with bindings } = part f) →
      ((part s.allFindings).map place).Nodup →
      (part s'.allFindings).sortBy (Placement.orderOn g'.current place) =
        (part s.allFindings).sortBy (Placement.orderOn g.current place) := by
    intro α part place hjoin hbindings hnodup
    rw [← hreorders.current]
    exact (Placement.sortBy_orderOn_eq_of_perm g.current
      (Survey.allFindings_part_perm_of_reordersTypes hreorders o part hjoin hbindings) hnodup).symm
  have hservices : s'.plan.services = s.plan.services :=
    hsorted (·.services) _ (fun _ _ => rfl) (fun _ _ => rfl) (Survey.nodup_services hwf)
  have hplugins : s'.plan.plugins = s.plan.plugins :=
    hsorted (·.plugins) _ (fun _ _ => rfl) (fun _ _ => rfl) (Survey.nodup_plugins hwf)
  have hfactories : s'.plan.factories = s.plan.factories :=
    hsorted (·.factories) _ (fun _ _ => rfl) (fun _ _ => rfl) (Survey.nodup_factories hwf)
  have hproxies : s'.plan.proxies = s.plan.proxies :=
    hsorted (·.proxies) _ (fun _ _ => rfl) (fun _ _ => rfl) (Survey.nodup_proxies hwf)
  have hbindings : s'.plan.bindings = s.plan.bindings :=
    (Survey.plan_bindings_eq_of_reordersTypes hreorders o hwf).symm
  have hbootstrap : s'.plan.bootstrap = s.plan.bootstrap :=
    List.sortDistinct_eq_of_mem_iff fun name => (hreorders.mem_participating_iff name).symm
  have hcurrent : s'.plan.current = s.plan.current := hreorders.current.symm
  have hmode : s'.plan.mode = s.plan.mode := rfl
  refine ⟨s.plan, s'.plan, Graph.plan_eq_ok hvalid o, Graph.plan_eq_ok hvalid' o, ?_,
    (Survey.plan_diagnostics_filter_eq_of_reordersTypes hreorders o).symm⟩
  rw [← hservices, ← hplugins, ← hfactories, ← hproxies, ← hbindings, ← hbootstrap, ← hcurrent,
    ← hmode]

/-! ## A desk -/

/-- A module with the given types, and another one of which it knows an interface. -/
def Graph.desk (types : List Declaration) : Graph where
  current := "Desk"
  modules :=
    [{ name := "Desk", types },
      { name := "Drawer", types := [.ofInterface "Drawer" "Drawer.ITool"] }]

theorem Graph.desk_reorders {types types' : List Declaration} (h : types.Perm types') :
    (desk types).ReordersTypes (desk types') where
  current := rfl
  modules := .cons ⟨rfl, rfl, h⟩ (.cons ⟨rfl, rfl, .refl _⟩ .nil)

/-- A tool of the desk. -/
def Declaration.pen : Declaration :=
  (ofClass "Desk" "Desk.Pen").implementing (.ofInterface "Drawer.ITool")

/-- What the desk is set up from, in two sections. -/
def Declaration.setup : Declaration :=
  ((((ofClass "Desk" "Desk.Setup").withProperty
    { name := "Width", type := .ofPrimitive "int" }).withMarker
    (.configurationSection { path := some "Desk" })).withMarker
    (.configurationSection { path := some "Room" }))

/-- The desk has the same plan, whether the tool or the settings are listed first. -/
theorem desk_eq_of_reordered_types :
    (Graph.desk [.pen, .setup]).validate = .ok () ∧
      (Graph.desk [.pen, .setup]).ReordersTypes (.desk [.setup, .pen]) ∧
      ∃ p p', (Graph.desk [.pen, .setup]).plan {} = .ok p ∧
        (Graph.desk [.setup, .pen]).plan {} = .ok p' ∧
        p' = { p with chains := p'.chains, diagnostics := p'.diagnostics } ∧
        p'.diagnostics.filter (·.problem != .moduleNotParticipating) =
          p.diagnostics.filter (·.problem != .moduleNotParticipating) := by
  have hvalid : (Graph.desk [.pen, .setup]).validate = .ok () := by decide
  have hreorders : (Graph.desk [.pen, .setup]).ReordersTypes (.desk [.setup, .pen]) :=
    Graph.desk_reorders (.swap ..)
  exact ⟨hvalid, hreorders, plan_eq_of_reordered_types _ _ {} hvalid hreorders⟩

end Wiring
