/-
  Wiring.Proofs.Survey.ModuleOrder

  What of a survey depends on the order in which the modules are listed. The declarations are
  planned in the order of generation, so two orders of the modules give the same findings, except
  that a name in a binding may stand for another declaration.
-/

import Wiring.Proofs.Configuration.Coercion
import Wiring.Proofs.Diagnostic.Order
import Wiring.Proofs.Graph.ModuleOrder
import Wiring.Proofs.Survey.SameTypes

namespace Wiring

/-! ## Names in bindings -/

namespace Graph

/-- The names that the binding of a declaration comes across: those of the types of its settable
    properties, and of those of the declarations that such a name may stand for. -/
inductive Reads (g : Graph) (d : Declaration) : String → Prop
  | property {p : Property} (hp : p ∈ d.settableProperties) : Reads g d p.type.unwrapped.1.name
  | nested {name : String} {e : Declaration} {p : Property} (hname : Reads g d name)
      (hanswer : g.Answers name e) (hp : p ∈ e.settableProperties) :
      Reads g d p.type.unwrapped.1.name

/-- Wherever a name that the binding of a declaration comes across may stand for several
    declarations, these are bound alike. -/
def BindsClearly (g : Graph) (d : Declaration) : Prop :=
  ∀ name, g.Reads d name → ∀ e e', g.Answers name e → g.Answers name e' → e.BindsAlike e'

variable {g g' : Graph}

/-- Names are clear if the declarations of a name are bound alike that only referenced modules
    declare. -/
theorem WellFormed.bindsClearly (h : g.WellFormed)
    (halike : ∀ e ∈ g.types, ∀ e' ∈ g.types, e.name = e'.name →
      (∀ f ∈ g.types, f.name = e.name → f.moduleName ≠ g.current) → e.BindsAlike e')
    (d : Declaration) : g.BindsClearly d := by
  intro name _ e e' he he'
  by_cases hcurrent : ∃ f ∈ g.types, f.name = name ∧ f.moduleName = g.current
  · rw [h.eq_of_answers he he' hcurrent]
    exact ⟨rfl, rfl, rfl, rfl, rfl⟩
  · have hsame : e.name = e'.name := he.name_eq.trans he'.name_eq.symm
    refine halike e he.mem e' he'.mem hsame fun f hf hname hmodule => ?_
    exact hcurrent ⟨f, hf, hname.trans he.name_eq, hmodule⟩

/-- A declaration whose names are clear is bound the same in any order of the modules. -/
theorem Reorders.bindings_eq (h : g.Reorders g') {d : Declaration} (hclear : g.BindsClearly d) :
    d.bindings g = d.bindings g' := by
  have hproperties : g.boundProperties [d.name] d = g'.boundProperties [d.name] d := by
    refine boundProperties_congr rfl fun p hp => ?_
    have hread : g.Reads d p.type.unwrapped.1.name := .property hp
    refine coercion?_eq_of_rel ?_ ?_ _ _ hread
    · exact fun name hname => h.declaresSame.lookup_rel (hclear name hname)
    · exact fun name e hname he q hq => .nested hname (answers_of_lookup he) hq
  unfold Declaration.bindings Declaration.binding
  rw [hproperties]

end Graph

/-! ## Findings -/

namespace Survey

variable {g g' : Graph} (h : g.Reorders g') (o : Options)
include h

theorem plannedTypes_eq_of_reorders (hwf : g.WellFormed) :
    (mk g o).plannedTypes = (mk g' o).plannedTypes := by
  have hplaces : (g.scanned.map fun m => Placement.mk m.name "").Nodup := by
    refine List.Nodup.of_map Placement.moduleName ?_
    rw [List.map_map]
    exact hwf.nodup_modules.sublist (List.filter_sublist.map _)
  have hmodules : (mk g o).plannedModules = (mk g' o).plannedModules := by
    unfold plannedModules
    rw [← h.current]
    exact Placement.sortBy_orderOn_eq_of_perm _ h.scanned_perm hplaces
  rw [plannedTypes, plannedTypes, hmodules]

/-- A part of all findings other than the bindings is the same. -/
theorem allFindings_part_eq_of_reorders (hwf : g.WellFormed) {α : Type} (part : Findings → List α)
    (hjoin : ∀ name parts, part (.join name parts) = parts.flatMap part)
    (hbindings : ∀ f bindings, part { f with bindings } = part f) :
    part (mk g o).allFindings = part (mk g' o).allFindings := by
  rw [allFindings_part _ part hjoin, allFindings_part _ part hjoin,
    plannedTypes_eq_of_reorders h o hwf]
  congr 1
  funext d
  exact findingsIn_part_eq_of_declaresSame h.declaresSame o part hbindings d

/-- The bindings are the same where the names in them are clear. -/
theorem bindings_allFindings_eq_of_reorders (hwf : g.WellFormed)
    (hclear : ∀ d ∈ g.scannedTypes, (mk g o).plays d .configuration = true → g.BindsClearly d) :
    (mk g o).allFindings.bindings = (mk g' o).allFindings.bindings := by
  rw [bindings_allFindings, bindings_allFindings, ← plannedTypes_eq_of_reorders h o hwf,
    ← plays_eq_of_declaresSame h.declaresSame]
  refine List.flatMap_congr fun d hd => ?_
  refine ite_congr rfl (fun hplays => ?_) fun _ => rfl
  exact h.bindings_eq (hclear d (mem_plannedTypes.mp hd) hplays)

/-! ## Checks -/

/-- The checks across modules find the same problems. -/
theorem mem_check_iff_of_reorders (hwf : g.WellFormed) {diagnostic : Diagnostic} :
    diagnostic ∈ (mk g o).check ↔ diagnostic ∈ (mk g' o).check := by
  have hsilent : (mk g o).silentModules = (mk g' o).silentModules := by
    unfold silentModules silentPlugins
    rw [h.silent_eq hwf, isPluginCandidate_eq_of_declaresSame h.declaresSame]
  have hscanned : g.scannedTypes.Perm g'.scannedTypes := h.scanned_perm.flatMap_right _
  have hinaccessible := mem_inaccessibleCandidates_iff_of_declaresSame h.declaresSame o
    (fun _ => hscanned.mem_iff) diagnostic
  rw [check, check, List.mem_append, List.mem_append, hsilent, hinaccessible]

end Survey
end Wiring
