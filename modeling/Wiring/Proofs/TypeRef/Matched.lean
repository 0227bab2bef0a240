/-
  Wiring.Proofs.TypeRef.Matched

  What matching an open reference with a closed one does. `Matched` has one case for each step that
  the search can take, and matching ends with bindings exactly if its steps lead to them. From the
  steps come the names that are bound, each once, what later steps leave alone, and that matching
  with a closed reference binds to closed references only.
-/

import Wiring.Proofs.TypeRef.Openness

namespace Wiring
namespace TypeRef

/-! ## The steps of matching -/

/-- Matching the arguments of one list with those of another, one by one, leads from the bindings
    known before to the bindings found. -/
inductive Matched : TypeBindings → List TypeRef → List TypeRef → TypeBindings → Prop
  /-- No argument is left. -/
  | done {known : TypeBindings} : Matched known [] [] known
  /-- A type parameter stands for the same reference as before. -/
  | again {known found : TypeBindings} {a b : TypeRef} {as bs : List TypeRef}
      (parameter : a.kind = .typeParameter) (bound : known.lookup a.name = some b)
      (rest : Matched known as bs found) : Matched known (a :: as) (b :: bs) found
  /-- A type parameter that is not bound yet stands for the reference. -/
  | new {known found : TypeBindings} {a b : TypeRef} {as bs : List TypeRef}
      (parameter : a.kind = .typeParameter) (unbound : known.lookup a.name = none)
      (rest : Matched (known.bind a.name b) as bs found) : Matched known (a :: as) (b :: bs) found
  /-- Type parameters occur inside the argument: what they stand for there replaces what they were
      bound to before. -/
  | inside {known inner found : TypeBindings} {a b : TypeRef} {as bs : List TypeRef}
      (plain : a.kind ≠ .typeParameter) (has_parameters : a.isOpen = true) (name : a.name = b.name)
      (args : Matched [] a.args b.args inner) (rest : Matched (known.bindAll inner) as bs found) :
      Matched known (a :: as) (b :: bs) found
  /-- An argument without type parameters is of the same type as the reference. -/
  | alike {known found : TypeBindings} {a b : TypeRef} {as bs : List TypeRef}
      (closed : a.isOpen = false) (same : a.sameType b = true)
      (rest : Matched known as bs found) : Matched known (a :: as) (b :: bs) found

variable {known found s : TypeBindings} {a b : TypeRef} {as bs : List TypeRef} {name : String}

theorem kind_ne_of_closed (h : a.isOpen = false) : a.kind ≠ .typeParameter := by
  cases a
  rw [isOpen, Bool.or_eq_false_iff, beq_eq_false_iff_ne] at h
  exact h.1

namespace Matched

theorem length_eq (h : Matched known as bs found) : as.length = bs.length := by
  induction h with
  | done => rfl
  | again _ _ _ ih => exact congrArg Nat.succ ih
  | new _ _ _ ih => exact congrArg Nat.succ ih
  | inside _ _ _ _ _ _ ih => exact congrArg Nat.succ ih
  | alike _ _ _ ih => exact congrArg Nat.succ ih

/-- The bindings that the steps lead to are those that the search finds. -/
theorem bindArgs_eq (h : Matched known as bs found) : bindArgs known as bs = some found := by
  induction h with
  | done => rfl
  | again parameter bound _ ih => rw [bindArgs, if_pos parameter, bound, ← ih]; exact if_pos rfl
  | new parameter unbound _ ih => rw [bindArgs, if_pos parameter, unbound, ← ih]
  | @inside _ inner _ a b _ _ plain has_parameters name args _ ihargs ihrest =>
      have hinner : a.bindAgainst b = some inner := by
        have hlength := args.length_eq
        cases a
        cases b
        rw [bindAgainst, ← ihargs]
        exact if_pos (by simpa using ⟨name, hlength⟩)
      rw [bindArgs, if_neg plain, if_pos has_parameters, hinner, ← ihrest]
  | alike closed same _ ih =>
      rw [bindArgs, if_neg (kind_ne_of_closed closed), if_neg (by simp [closed]), if_pos same, ih]

end Matched

mutual

theorem matched_of_bindAgainst_eq_some : ∀ (a b : TypeRef) {found : TypeBindings},
    a.bindAgainst b = some found → a.name = b.name ∧ Matched [] a.args b.args found
  | ⟨name, _, args, _⟩, ⟨name', _, args', _⟩, found, h => by
    rw [bindAgainst, Option.ite_none_right_eq_some, Bool.and_eq_true, beq_iff_eq, beq_iff_eq] at h
    obtain ⟨⟨hname, hlength⟩, hargs⟩ := h
    exact ⟨hname, matched_of_bindArgs_eq_some args args' hlength hargs⟩

theorem matched_of_bindArgs_eq_some : ∀ (as bs : List TypeRef) {known found : TypeBindings},
    as.length = bs.length → bindArgs known as bs = some found → Matched known as bs found
  | [], [], known, found, _, h => by
    have hsame : known = found := by simpa [bindArgs] using h
    exact hsame ▸ .done
  | [], _ :: _, _, _, hlength, _ => nomatch hlength
  | _ :: _, [], _, _, hlength, _ => nomatch hlength
  | a :: as, b :: bs, known, found, hlength, h => by
    have hrest : as.length = bs.length := Nat.succ.inj hlength
    rw [bindArgs] at h
    split at h
    · -- A type parameter, bound before or now
      rename_i hkind
      split at h
      · rename_i bound hlookup
        rw [Option.ite_none_right_eq_some] at h
        obtain ⟨rfl, h⟩ := h
        exact .again hkind hlookup (matched_of_bindArgs_eq_some as bs hrest h)
      · rename_i hlookup
        exact .new hkind hlookup (matched_of_bindArgs_eq_some as bs hrest h)
    · rename_i hkind
      split at h
      · -- An argument with type parameters inside it
        rename_i hopen
        split at h
        · rename_i inner hinner
          obtain ⟨hname, hargs⟩ := matched_of_bindAgainst_eq_some a b hinner
          exact .inside hkind hopen hname hargs (matched_of_bindArgs_eq_some as bs hrest h)
        · cases h
      · -- An argument without type parameters
        rename_i hopen
        rw [Option.ite_none_right_eq_some] at h
        exact .alike (Bool.eq_false_iff.mpr hopen) h.1 (matched_of_bindArgs_eq_some as bs hrest h.2)

end

/-- Matching ends with bindings exactly if the names agree and the steps lead to the bindings. -/
theorem bindAgainst_eq_some_iff :
    a.bindAgainst b = some found ↔ a.name = b.name ∧ Matched [] a.args b.args found := by
  refine ⟨matched_of_bindAgainst_eq_some a b, fun ⟨hname, hargs⟩ => ?_⟩
  have hlength := hargs.length_eq
  have hbind := hargs.bindArgs_eq
  cases a
  cases b
  rw [bindAgainst, ← hbind]
  exact if_pos (by simpa using ⟨hname, hlength⟩)

/-! ## The names that are bound -/

namespace Matched

/-- Matching binds the type parameters of the arguments and keeps the names bound before. -/
theorem mem_names_iff (h : Matched known as bs found) :
    name ∈ found.map Prod.fst ↔ name ∈ known.map Prod.fst ∨ name ∈ freeParametersAll as := by
  induction h with
  | done => simp [freeParametersAll]
  | again parameter bound _ ih =>
      rw [ih, freeParametersAll, freeParameters_of_kind_eq parameter, List.mem_append,
        List.mem_singleton]
      -- The name is among those known
      have hknown := List.mem_map_of_mem (f := Prod.fst)
        (TypeBindings.exists_of_lookup_eq_some bound)
      grind
  | new parameter _ _ ih =>
      rw [ih, freeParametersAll, freeParameters_of_kind_eq parameter, List.mem_append,
        List.mem_singleton, TypeBindings.mem_names_bind, or_comm (a := name = _), or_assoc]
  | inside plain _ _ _ _ ihargs ihrest =>
      rw [ihrest, TypeBindings.mem_names_bindAll, ihargs, freeParametersAll,
        freeParameters_of_kind_ne plain, List.mem_append, or_assoc]
      simp
  | alike closed _ _ ih =>
      rw [ih, freeParametersAll, (freeParameters_eq_nil_iff _).mpr closed, List.nil_append]

/-- Matching binds no name twice. -/
theorem nodup_names (h : Matched known as bs found) (hknown : (known.map Prod.fst).Nodup) :
    (found.map Prod.fst).Nodup := by
  induction h with
  | done => exact hknown
  | again _ _ _ ih => exact ih hknown
  | new _ _ _ ih => exact ih (TypeBindings.nodup_names_bind hknown)
  | inside _ _ _ _ _ _ ih => exact ih (TypeBindings.nodup_names_bindAll hknown)
  | alike _ _ _ ih => exact ih hknown

/-- Matching leaves alone what the arguments do not mention. -/
theorem lookup_eq_of_not_mem (h : Matched known as bs found) (hname : name ∉ freeParametersAll as) :
    found.lookup name = known.lookup name := by
  induction h with
  | done => rfl
  | again _ _ _ ih =>
      rw [freeParametersAll, List.mem_append, not_or] at hname
      exact ih hname.2
  | new parameter _ _ ih =>
      rw [freeParametersAll, freeParameters_of_kind_eq parameter, List.mem_append, not_or,
        List.mem_singleton] at hname
      rw [ih hname.2, TypeBindings.lookup_bind, if_neg hname.1]
  | inside plain _ _ args _ _ ih =>
      rw [freeParametersAll, freeParameters_of_kind_ne plain, List.mem_append, not_or] at hname
      -- The argument binds the parameters inside it and no others
      have hinner := mt args.mem_names_iff.mp (not_or.mpr ⟨List.not_mem_nil, hname.1⟩)
      rw [ih hname.2, TypeBindings.lookup_bindAll_of_not_mem hinner]
  | alike _ _ _ ih =>
      rw [freeParametersAll, List.mem_append, not_or] at hname
      exact ih hname.2

/-- Matching with closed arguments binds to closed references. -/
theorem closed_entries (h : Matched known as bs found) (hclosed : anyOpen bs = false)
    (hknown : ∀ entry ∈ known, entry.2.isOpen = false) :
    ∀ entry ∈ found, entry.2.isOpen = false := by
  -- A step binds to the closed argument itself or to what is found inside of it
  induction h with
  | done => exact hknown
  | again _ _ _ ih =>
      rw [anyOpen, Bool.or_eq_false_iff] at hclosed
      exact ih hclosed.2 hknown
  | new _ _ _ ih =>
      rw [anyOpen, Bool.or_eq_false_iff] at hclosed
      refine ih hclosed.2 fun entry hentry => ?_
      rcases TypeBindings.eq_or_mem_of_mem_bind hentry with rfl | hold
      · exact hclosed.1
      · exact hknown entry hold
  | inside _ _ _ _ _ ihargs ihrest =>
      rw [anyOpen, Bool.or_eq_false_iff] at hclosed
      have hinner := ihargs (anyOpen_args_of_closed hclosed.1) nofun
      refine ihrest hclosed.2 fun entry hentry => ?_
      rcases TypeBindings.mem_or_mem_of_mem_bindAll hentry with hnew | hold
      · exact hinner entry hnew
      · exact hknown entry hold
  | alike _ _ _ ih =>
      rw [anyOpen, Bool.or_eq_false_iff] at hclosed
      exact ih hclosed.2 hknown

end Matched

/-- Matching with a closed reference binds the type parameters of the arguments to closed
    references. -/
theorem closes_of_bindAgainst_eq_some (h : a.bindAgainst b = some found)
    (hclosed : b.isOpen = false) : found.Closes (freeParametersAll a.args) := by
  have hmatched := (bindAgainst_eq_some_iff.mp h).2
  refine ⟨fun name hname => hmatched.mem_names_iff.mpr (.inr hname), ?_⟩
  exact hmatched.closed_entries (anyOpen_args_of_closed hclosed) nofun

end TypeRef
end Wiring
