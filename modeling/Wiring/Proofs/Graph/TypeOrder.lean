/-
  Wiring.Proofs.Graph.TypeOrder

  What of a graph depends on the order in which a module lists its types: nothing that is looked up.
  A module declares each name once, so a search of its types finds the same declaration in any
  order, and the modules are still searched in theirs.
-/

import Wiring.Proofs.Graph.SameTypes
import Wiring.Proofs.Survey.Findings
import Mathlib.Data.List.Forall2

namespace List

variable {α β γ : Type}

/-- What is collected from lists that belong together is the same up to the order. -/
theorem Forall₂.flatMap_perm {r : α → β → Prop} {f : α → List γ} {g : β → List γ} {xs : List α}
    {ys : List β} (h : Forall₂ r xs ys) (hperm : ∀ a b, r a b → (f a).Perm (g b)) :
    (xs.flatMap f).Perm (ys.flatMap g) := by
  induction h with
  | nil => exact .nil
  | cons hab _ ih =>
      rw [flatMap_cons, flatMap_cons]
      exact (hperm _ _ hab).append ih

/-- Searches that agree on the elements that belong together find the same. -/
theorem Forall₂.findSome?_eq {r : α → β → Prop} {f : α → Option γ} {g : β → Option γ}
    {xs : List α} {ys : List β} (h : Forall₂ r xs ys) (hagree : ∀ a ∈ xs, ∀ b, r a b → f a = g b) :
    xs.findSome? f = ys.findSome? g := by
  induction h with
  | nil => rfl
  | cons hab _ ih =>
      have htail := ih fun a ha => hagree a (mem_cons_of_mem _ ha)
      rw [findSome?_cons, findSome?_cons, hagree _ (mem_cons_self ..) _ hab, htail]

end List

namespace Wiring

/-- The two modules are the same, but for the order in which they list their types. -/
structure CodeModule.ReordersTypes (m m' : CodeModule) : Prop where
  name : m.name = m'.name
  participates : m.participates = m'.participates
  types : m.types.Perm m'.types

namespace Graph

/-- The two graphs list the same modules in the same order, and in each of them the same types in
    any order. -/
structure ReordersTypes (g g' : Graph) : Prop where
  current : g.current = g'.current
  modules : List.Forall₂ CodeModule.ReordersTypes g.modules g'.modules

namespace ReordersTypes

variable {g g' : Graph}

theorem types_perm (h : g.ReordersTypes g') : g.types.Perm g'.types :=
  h.modules.flatMap_perm fun _ _ hm => hm.types

theorem declaresSame (h : g.ReordersTypes g') : g.DeclaresSame g' where
  current := h.current
  mem_types_iff := fun _ => h.types_perm.mem_iff

/-- A graph is well formed in any order of the types. -/
theorem wellFormed (h : g.ReordersTypes g') (hwf : g.WellFormed) : g'.WellFormed where
  nodup_modules := by
    rw [← h.modules.map_eq_map fun _ _ hm => hm.name]
    exact hwf.nodup_modules
  listed := by
    intro m' hm' d hd
    obtain ⟨m, hm, hsame⟩ := h.modules.exists_left hm'
    rw [hwf.listed m hm d (hsame.types.mem_iff.mpr hd), hsame.name]
  nodup_types := by
    intro m' hm'
    obtain ⟨m, hm, hsame⟩ := h.modules.exists_left hm'
    exact (hsame.types.map _).nodup_iff.mp (hwf.nodup_types m hm)
  current_mem := by
    have hnames := h.modules.map_eq_map fun _ _ hm => hm.name
    obtain ⟨m, hm, hcurrent⟩ := hwf.current_mem
    have hmem : g'.current ∈ g'.modules.map (·.name) := by
      rw [← hnames, ← h.current, ← hcurrent]
      exact List.mem_map_of_mem hm
    exact List.mem_map.mp hmem

/-! ## Lists of modules -/

/-- Modules that are picked by what stays the same of them correspond to each other. -/
theorem filter (h : g.ReordersTypes g') (p : Bool → Bool → Bool) :
    List.Forall₂ CodeModule.ReordersTypes
      (g.modules.filter fun m => p (g.isCurrent m.name) m.participates)
      (g'.modules.filter fun m => p (g'.isCurrent m.name) m.participates) := by
  refine List.rel_filter (fun {m m'} hm => ?_) h.modules
  simp only [h.declaresSame.isCurrent_eq, hm.name, hm.participates]

theorem scannedTypes_perm (h : g.ReordersTypes g') : g.scannedTypes.Perm g'.scannedTypes :=
  (h.filter fun isCurrent participates => isCurrent || participates).flatMap_perm
    fun _ _ hm => hm.types

theorem mem_participating_iff (h : g.ReordersTypes g') (name : String) :
    name ∈ g.participating.map (·.name) ↔ name ∈ g'.participating.map (·.name) := by
  have hnames := (h.filter fun isCurrent participates => !isCurrent && participates).map_eq_map
    fun _ _ hm => hm.name
  unfold participating
  rw [((List.sortBy_perm _ _).map _).mem_iff, ((List.sortBy_perm _ _).map _).mem_iff, hnames]

/-! ## Names -/

/-- A name stands for the same declaration in any order of the types. -/
theorem lookup_eq (h : g.ReordersTypes g') (hwf : g.WellFormed) : g.lookup = g'.lookup := by
  funext name
  -- One declaration at most is of the current module and of the name
  have hcurrent : (g.types.reverse.find? fun d => d.name == name && g.isCurrent d.moduleName) =
      g'.types.reverse.find? fun d => d.name == name && g.isCurrent d.moduleName := by
    have hreverse : g.types.reverse.Perm g'.types.reverse :=
      (List.reverse_perm _).trans (h.types_perm.trans (List.reverse_perm _).symm)
    exact hreverse.find?_eq fun d hd e he =>
      hwf.eq_of_name_of_isCurrent (List.mem_reverse.mp hd) (List.mem_reverse.mp he)
  -- One declaration at most of each module is of the name
  have hfirst : g.types.find? (·.name == name) = g'.types.find? (·.name == name) := by
    unfold types
    rw [List.find?_flatMap, List.find?_flatMap]
    refine h.modules.findSome?_eq fun m hm m' hsame => ?_
    exact hsame.types.find?_eq (List.eq_of_nodup_map (hwf.nodup_types m hm))
  rw [Graph.lookup_eq, Graph.lookup_eq, hcurrent, hfirst, h.declaresSame.isCurrent_eq]

end ReordersTypes
end Graph
end Wiring
