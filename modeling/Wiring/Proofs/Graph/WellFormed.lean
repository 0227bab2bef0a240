/-
  Wiring.Proofs.Graph.WellFormed

  What a graph that passes the check is promised to be. The check walks the modules with the names
  seen so far; each step is characterised by an equivalence, and from them comes that no two
  declarations of a well-formed graph stand at the same place.
-/

import Wiring.Graph.Basic
import Wiring.Plan.Order
import Mathlib.Data.List.Nodup

namespace Wiring

/-- Where a declaration stands in the order of generation. -/
def Declaration.placement (d : Declaration) : Placement := ⟨d.moduleName, d.name⟩

namespace Graph

/-- Names are unique, every type is listed under its module, and the current module is there. -/
structure WellFormed (g : Graph) : Prop where
  nodup_modules : (g.modules.map (·.name)).Nodup
  listed : ∀ m ∈ g.modules, ∀ d ∈ m.types, d.moduleName = m.name
  nodup_types : ∀ m ∈ g.modules, (m.types.map (·.name)).Nodup
  current_mem : ∃ m ∈ g.modules, m.name = g.current

/-! ## What the check accepts -/

theorem checkTypes_eq_ok_iff (m : CodeModule) (seen : List String) (types : List Declaration) :
    checkTypes m seen types = .ok () ↔
      (∀ d ∈ types, d.moduleName = m.name) ∧ (types.map (·.name)).Nodup ∧
        ∀ d ∈ types, d.name ∉ seen := by
  induction types generalizing seen with
  | nil => simp [checkTypes]
  | cons d rest ih =>
      unfold checkTypes
      split
      · -- Listed under another module
        rename_i hother
        simp only [bne_iff_ne] at hother
        simp [hother]
      · rename_i hlisted
        simp only [bne_iff_ne, not_not] at hlisted
        split
        · -- A name that has been seen
          rename_i hseen
          rw [List.contains_iff_mem] at hseen
          simp [hseen]
        · -- A new name, which the rest must not repeat
          rename_i hnew
          rw [List.contains_iff_mem] at hnew
          simp only [ih, List.mem_cons, not_or, List.map_cons, List.nodup_cons, List.mem_map,
            forall_eq_or_imp, hlisted, hnew, not_false_eq_true, true_and, not_exists, not_and]
          grind

theorem checkModules_eq_ok_iff (seen : List String) (modules : List CodeModule) :
    checkModules seen modules = .ok () ↔
      (modules.map (·.name)).Nodup ∧ (∀ m ∈ modules, m.name ∉ seen) ∧
        ∀ m ∈ modules, (∀ d ∈ m.types, d.moduleName = m.name) ∧
          (m.types.map (·.name)).Nodup := by
  induction modules generalizing seen with
  | nil => simp [checkModules]
  | cons m rest ih =>
      unfold checkModules
      split
      · -- A name that has been seen
        rename_i hseen
        rw [List.contains_iff_mem] at hseen
        simp [hseen]
      · rename_i hnew
        rw [List.contains_iff_mem] at hnew
        have htypes : checkTypes m [] m.types = .ok () ↔
            (∀ d ∈ m.types, d.moduleName = m.name) ∧ (m.types.map (·.name)).Nodup := by
          rw [checkTypes_eq_ok_iff]
          simp
        split
        · -- A fault among the types of the module
          rename_i failure hfail
          rw [hfail] at htypes
          refine ⟨fun h => (nomatch h), fun h => ?_⟩
          exact nomatch htypes.mpr (h.2.2 m (.head _))
        · -- The module is in order, so it comes down to the rest
          rename_i hok
          have hm := htypes.mp hok
          simp only [ih, List.mem_cons, not_or, List.map_cons, List.nodup_cons, List.mem_map,
            forall_eq_or_imp, hnew, hm, not_false_eq_true, true_and, not_exists, not_and]
          grind

/-- The check accepts the well-formed graphs and no others. -/
theorem validate_eq_ok_iff {g : Graph} : g.validate = .ok () ↔ g.WellFormed := by
  have hmodules := checkModules_eq_ok_iff [] g.modules
  unfold validate
  refine ⟨?_, ?_⟩
  · intro h
    split at h
    · cases h
    · rename_i hok
      obtain ⟨hnodup, -, heach⟩ := hmodules.mp hok
      split at h
      · rename_i hcurrent
        simp only [List.any_eq_true, beq_iff_eq] at hcurrent
        exact ⟨hnodup, fun m hm => (heach m hm).1, fun m hm => (heach m hm).2, hcurrent⟩
      · cases h
  · intro h
    have hok := hmodules.mpr
      ⟨h.nodup_modules, by simp, fun m hm => ⟨h.listed m hm, h.nodup_types m hm⟩⟩
    have hcurrent : g.modules.any (·.name == g.current) = true := by
      simpa only [List.any_eq_true, beq_iff_eq] using h.current_mem
    rw [hok]
    exact if_pos hcurrent

/-! ## Places -/

/-- No two declarations of a well-formed graph stand at the same place. -/
theorem WellFormed.nodup_placements {g : Graph} (h : g.WellFormed) :
    (g.types.map Declaration.placement).Nodup := by
  unfold types
  rw [List.map_flatMap, List.nodup_flatMap]
  refine ⟨?_, ?_⟩
  · -- Inside one module the names tell the types apart
    intro m hm
    refine List.Nodup.of_map (·.typeName) ?_
    rw [List.map_map]
    exact h.nodup_types m hm
  · -- The types of two modules differ in the module
    have hnames := List.pairwise_map.mp h.nodup_modules
    refine hnames.imp_of_mem ?_
    intro m m' hm hm' hne p hp hp'
    obtain ⟨d, hd, rfl⟩ := List.mem_map.mp hp
    obtain ⟨d', hd', hplace⟩ := List.mem_map.mp hp'
    apply hne
    calc m.name = d.moduleName := (h.listed m hm d hd).symm
      _ = d'.moduleName := (congrArg Placement.moduleName hplace).symm
      _ = m'.name := h.listed m' hm' d' hd'

end Graph
end Wiring
