/-
  Wiring.Proofs.Graph.ModuleOrder

  What of a graph depends on the order in which its modules are listed. The declarations are the
  same ones in another order, so everything that is sorted or collected as a set stays as it is;
  only a name may stand for another declaration.
-/

import Wiring.Proofs.Graph.SameTypes
import Wiring.Proofs.Plan.Order

namespace Wiring.Graph

/-- The two graphs list the same modules, in any order. -/
structure Reorders (g g' : Graph) : Prop where
  current : g.current = g'.current
  modules : g.modules.Perm g'.modules

namespace Reorders

variable {g g' : Graph}

theorem types_perm (h : g.Reorders g') : g.types.Perm g'.types := h.modules.flatMap_right _

/-- Another order of the modules declares the same types. -/
theorem declaresSame (h : g.Reorders g') : g.DeclaresSame g' where
  current := h.current
  mem_types_iff := fun _ => h.types_perm.mem_iff

/-- A graph is well formed in any order of its modules. -/
theorem wellFormed (h : g.Reorders g') (hwf : g.WellFormed) : g'.WellFormed where
  nodup_modules := (h.modules.map _).nodup_iff.mp hwf.nodup_modules
  listed := fun m hm => hwf.listed m (h.modules.mem_iff.mpr hm)
  nodup_types := fun m hm => hwf.nodup_types m (h.modules.mem_iff.mpr hm)
  current_mem := by
    obtain ⟨m, hm, hname⟩ := hwf.current_mem
    exact ⟨m, h.modules.mem_iff.mp hm, hname.trans h.current⟩

/-! ## Lists of modules -/

/-- Modules of one kind are sorted by name into the same list. -/
theorem sortBy_name_eq (h : g.Reorders g') (hwf : g.WellFormed) (p : CodeModule → Bool) :
    (g.modules.filter p).sortBy (compareOn (·.name)) =
      (g'.modules.filter p).sortBy (compareOn (·.name)) := by
  refine List.sortBy_eq_of_perm (h.modules.filter p) fun m hm m' hm' heq => ?_
  have hname : m.name = m'.name := Std.LawfulEqOrd.eq_of_compare heq
  exact List.inj_on_of_nodup_map hwf.nodup_modules (List.mem_of_mem_filter hm)
    (List.mem_of_mem_filter hm') hname

theorem participating_eq (h : g.Reorders g') (hwf : g.WellFormed) :
    g.participating = g'.participating := by
  unfold participating
  rw [h.declaresSame.isCurrent_eq]
  exact h.sortBy_name_eq hwf _

theorem silent_eq (h : g.Reorders g') (hwf : g.WellFormed) : g.silent = g'.silent := by
  unfold silent
  rw [h.declaresSame.isCurrent_eq]
  exact h.sortBy_name_eq hwf _

theorem scanned_perm (h : g.Reorders g') : g.scanned.Perm g'.scanned := by
  unfold scanned
  rw [h.declaresSame.isCurrent_eq]
  exact h.modules.filter _

end Reorders
end Wiring.Graph
