/-
  Wiring.Proofs.Graph.SameTypes

  Graphs that declare the same types, in whatever order they list them. What is collected from the
  declarations as a set is the same, and a name may stand for the same declarations; which of these
  it does stand for is left to the order.
-/

import Wiring.Proofs.Graph.Lookup
import Wiring.Proofs.Listing.Sorted

namespace Wiring.Graph

/-- The two graphs compile the same module and declare the same types. -/
structure DeclaresSame (g g' : Graph) : Prop where
  current : g.current = g'.current
  mem_types_iff : ∀ d, d ∈ g.types ↔ d ∈ g'.types

namespace DeclaresSame

variable {g g' : Graph}

theorem isCurrent_eq (h : g.DeclaresSame g') : g.isCurrent = g'.isCurrent := by
  funext name
  rw [isCurrent, isCurrent, h.current]

theorem pluginContracts_eq (h : g.DeclaresSame g') : g.pluginContracts = g'.pluginContracts := by
  refine List.sortDistinct_eq_of_mem_iff fun name => ?_
  simp only [List.mem_map, List.mem_filter, h.mem_types_iff]

theorem answers_iff (h : g.DeclaresSame g') {name : String} {d : Declaration} :
    g.Answers name d ↔ g'.Answers name d := by
  refine ⟨fun ⟨hmem, hname, hcurrent⟩ => ⟨(h.mem_types_iff d).mp hmem, hname, ?_⟩,
    fun ⟨hmem, hname, hcurrent⟩ => ⟨(h.mem_types_iff d).mpr hmem, hname, ?_⟩⟩
  · rw [← h.current]
    exact fun e he => hcurrent e ((h.mem_types_iff e).mpr he)
  · rw [h.current]
    exact fun e he => hcurrent e ((h.mem_types_iff e).mp he)

/-- A name is found in neither of the graphs, or stands for declarations that are related if all
    those are that may answer to it. -/
theorem lookup_rel (h : g.DeclaresSame g') {name : String}
    {r : Declaration → Declaration → Prop}
    (hanswers : ∀ d d', g.Answers name d → g.Answers name d' → r d d') :
    Option.Rel r (g.lookup name) (g'.lookup name) := by
  have hnone : g.lookup name = none ↔ g'.lookup name = none := by
    simp only [lookup_eq_none_iff, h.mem_types_iff]
  cases hfound : g.lookup name with
  | none =>
      rw [hnone.mp hfound]
      exact .none
  | some d =>
      obtain ⟨d', hfound'⟩ := Option.ne_none_iff_exists'.mp
        (mt hnone.mpr (hfound ▸ Option.some_ne_none d))
      rw [hfound']
      exact .some (hanswers d d' (answers_of_lookup hfound)
        (h.answers_iff.mpr (answers_of_lookup hfound')))

end DeclaresSame
end Wiring.Graph
