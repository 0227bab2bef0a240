/-
  Wiring.Proofs.TypeRef.Bindings

  What bindings say of a name. Binding a name replaces what it stood for and leaves the others
  alone; of bindings that are put together, the later ones count.
-/

import Wiring.TypeRef.Matching
import Mathlib.Data.List.Nodup

namespace Wiring
namespace TypeBindings

variable {bindings more : TypeBindings} {name other : String} {ref : TypeRef}

/-! ## Looking up what is bound -/

theorem exists_of_lookup_eq_some (h : bindings.lookup name = some ref) :
    (name, ref) ∈ bindings := by
  obtain ⟨before, after, hsplit, -⟩ := List.lookup_eq_some_iff.mp h
  rw [hsplit]
  exact List.mem_append_right _ (.head _)

theorem exists_lookup_of_mem_names (h : name ∈ bindings.map Prod.fst) :
    ∃ ref, bindings.lookup name = some ref := by
  cases hlookup : bindings.lookup name with
  | some ref => exact ⟨ref, rfl⟩
  | none =>
      obtain ⟨entry, hentry, rfl⟩ := List.mem_map.mp h
      have hother := List.lookup_eq_none_iff.mp hlookup entry hentry
      simp at hother

theorem lookup_eq_none_of_not_mem_names (h : name ∉ bindings.map Prod.fst) :
    bindings.lookup name = none := by
  cases hlookup : bindings.lookup name with
  | none => rfl
  | some ref => exact absurd (List.mem_map_of_mem (exists_of_lookup_eq_some hlookup)) h

theorem lookup_entry_cons (entry : String × TypeRef) (rest : TypeBindings) (name : String) :
    List.lookup name (entry :: rest) = if name = entry.1 then some entry.2 else rest.lookup name := by
  obtain ⟨bound, ref⟩ := entry
  rw [List.lookup_cons]
  by_cases h : name = bound
  · simp [h]
  · rw [beq_false_of_ne h, if_neg h]

/-! ## Binding a name -/

/-- Binding a name changes what this name stands for and nothing else. -/
theorem lookup_bind :
    (bindings.bind name ref).lookup other =
      if other = name then some ref else bindings.lookup other := by
  induction bindings with
  | nil => exact lookup_entry_cons (name, ref) [] other
  | cons entry rest ih =>
      unfold bind
      by_cases hbound : entry.1 = name
      · -- The new entry stands in place of the old one
        rw [if_pos hbound, lookup_entry_cons, lookup_entry_cons, hbound]
        split <;> rfl
      · rw [if_neg hbound, lookup_entry_cons, lookup_entry_cons, ih]
        by_cases h : other = entry.1
        · rw [if_pos h, if_pos h, if_neg (h ▸ hbound)]
        · rw [if_neg h, if_neg h]

theorem eq_or_mem_of_mem_bind {entry : String × TypeRef} (h : entry ∈ bindings.bind name ref) :
    entry = (name, ref) ∨ entry ∈ bindings := by
  induction bindings with
  | nil => exact .inl (List.mem_singleton.mp h)
  | cons first rest ih =>
      unfold bind at h
      split at h
      · rcases List.mem_cons.mp h with rfl | hrest
        · exact .inl rfl
        · exact .inr (.tail _ hrest)
      · rcases List.mem_cons.mp h with rfl | hrest
        · exact .inr (.head _)
        · exact (ih hrest).imp_right (.tail _)

theorem mem_names_bind :
    other ∈ (bindings.bind name ref).map Prod.fst ↔
      other = name ∨ other ∈ bindings.map Prod.fst := by
  induction bindings with
  | nil => simp [bind]
  | cons entry rest ih =>
      unfold bind
      split
      · rename_i hname
        simp [← hname]
      · rw [List.map_cons, List.mem_cons, ih, List.map_cons, List.mem_cons, or_left_comm]

theorem nodup_names_bind (h : (bindings.map Prod.fst).Nodup) :
    ((bindings.bind name ref).map Prod.fst).Nodup := by
  induction bindings with
  | nil => exact List.nodup_singleton name
  | cons entry rest ih =>
      rw [List.map_cons, List.nodup_cons] at h
      unfold bind
      split
      · rename_i hname
        rw [List.map_cons, List.nodup_cons, ← hname]
        exact h
      · rename_i hname
        rw [List.map_cons, List.nodup_cons, mem_names_bind]
        exact ⟨not_or.mpr ⟨hname, h.1⟩, ih h.2⟩

/-! ## Binding all names of other bindings -/

theorem bindAll_cons (entry : String × TypeRef) (rest : TypeBindings) :
    bindings.bindAll (entry :: rest) = (bindings.bind entry.1 entry.2).bindAll rest := rfl

theorem mem_names_bindAll :
    name ∈ (bindings.bindAll more).map Prod.fst ↔
      name ∈ bindings.map Prod.fst ∨ name ∈ more.map Prod.fst := by
  induction more generalizing bindings with
  | nil => simp [bindAll]
  | cons entry rest ih =>
      rw [bindAll_cons, ih, mem_names_bind, List.map_cons, List.mem_cons]
      -- The name of the entry moves from the one side to the other
      rw [or_comm (a := name = entry.1), or_assoc]

theorem mem_or_mem_of_mem_bindAll {entry : String × TypeRef} (h : entry ∈ bindings.bindAll more) :
    entry ∈ more ∨ entry ∈ bindings := by
  induction more generalizing bindings with
  | nil => exact .inr h
  | cons first rest ih =>
      rw [bindAll_cons] at h
      rcases ih h with hrest | hbound
      · exact .inl (.tail _ hrest)
      · rcases eq_or_mem_of_mem_bind hbound with rfl | hold
        · exact .inl (.head _)
        · exact .inr hold

theorem nodup_names_bindAll (h : (bindings.map Prod.fst).Nodup) :
    ((bindings.bindAll more).map Prod.fst).Nodup := by
  induction more generalizing bindings with
  | nil => exact h
  | cons entry rest ih =>
      rw [bindAll_cons]
      exact ih (nodup_names_bind h)

theorem lookup_bindAll_of_not_mem (h : name ∉ more.map Prod.fst) :
    (bindings.bindAll more).lookup name = bindings.lookup name := by
  induction more generalizing bindings with
  | nil => rfl
  | cons entry rest ih =>
      rw [List.map_cons, List.mem_cons, not_or] at h
      rw [bindAll_cons, ih h.2, lookup_bind, if_neg h.1]

/-- What is bound last counts. -/
theorem lookup_bindAll_of_mem (hnodup : (more.map Prod.fst).Nodup)
    (h : name ∈ more.map Prod.fst) :
    (bindings.bindAll more).lookup name = more.lookup name := by
  induction more generalizing bindings with
  | nil => cases h
  | cons entry rest ih =>
      rw [List.map_cons, List.nodup_cons] at hnodup
      rw [bindAll_cons, lookup_entry_cons]
      by_cases hname : name = entry.1
      · -- No later entry has this name
        rw [lookup_bindAll_of_not_mem (hname ▸ hnodup.1), lookup_bind, if_pos hname, if_pos hname]
      · have hrest : name ∈ rest.map Prod.fst := (List.mem_cons.mp h).resolve_left hname
        rw [ih hnodup.2 hrest, if_neg hname]

end TypeBindings
end Wiring
