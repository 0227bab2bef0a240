/-
  Wiring.Proofs.Graph.Lookup

  What a name is looked up as. While the declarations are entered one by one, the entry of a name is
  the last one of the current module that has come by, or else the first one of any module. So a
  name that the current module declares stands for that declaration, and any other name for one of
  the declarations in the referenced modules; which of them depends on where these are listed. A
  search of the modules, the current one first, finds the same declarations.
-/

import Wiring.Proofs.Graph.WellFormed
import Wiring.Proofs.Listing.Distinct

namespace Wiring.Graph

variable {g : Graph} {name : String} {d e : Declaration}

/-! ## Entering declarations -/

/-- The entry of a name after some declarations: the last of the current module among them, or else
    what was entered before, or else the first of them. -/
theorem foldl_enter (g : Graph) (name : String) (types : List Declaration)
    (entry : Option Declaration) :
    types.foldl (g.enter name) entry =
      ((types.reverse.find? fun d => d.name == name && g.isCurrent d.moduleName).or entry).or
        (types.find? (·.name == name)) := by
  induction types generalizing entry with
  | nil => simp
  | cons d rest ih =>
      rw [List.foldl_cons, ih, List.reverse_cons, List.find?_append, List.find?_singleton,
        List.find?_cons]
      unfold enter
      cases hname : d.name == name with
      | false => simp
      | true =>
          -- It is entered if nothing was before it, or if it is one of the current module
          cases hcurrent : g.isCurrent d.moduleName <;> cases entry <;> simp

theorem lookup_eq (g : Graph) (name : String) :
    g.lookup name =
      (g.types.reverse.find? fun d => d.name == name && g.isCurrent d.moduleName).or
        (g.types.find? (·.name == name)) := by
  rw [lookup, foldl_enter, Option.or_none]

/-! ## The declaration that a name stands for -/

/-- A declaration that a name may stand for: one of the name, and one of the current module if that
    declares the name. -/
structure Answers (g : Graph) (name : String) (d : Declaration) : Prop where
  mem : d ∈ g.types
  name_eq : d.name = name
  current : ∀ e ∈ g.types, e.name = name → e.moduleName = g.current → d.moduleName = g.current

theorem answers_of_lookup (h : g.lookup name = some d) : g.Answers name d := by
  rw [lookup_eq, Option.or_eq_some_iff] at h
  rcases h with hcurrent | ⟨hnone, hfirst⟩
  · -- A declaration of the current module
    have hsome := List.find?_some hcurrent
    simp only [isCurrent, Bool.and_eq_true, beq_iff_eq] at hsome
    exact ⟨List.mem_reverse.mp (List.mem_of_find?_eq_some hcurrent), hsome.1,
      fun _ _ _ _ => hsome.2.symm⟩
  · -- The current module does not declare the name
    have hnamed := List.find?_some hfirst
    refine ⟨List.mem_of_find?_eq_some hfirst, beq_iff_eq.mp hnamed, fun e he hname hmodule => ?_⟩
    have hskipped := List.find?_eq_none.mp hnone e (List.mem_reverse.mpr he)
    simp [isCurrent, hname, hmodule] at hskipped

theorem lookup_eq_none_iff : g.lookup name = none ↔ ∀ d ∈ g.types, d.name ≠ name := by
  simp only [lookup_eq, Option.or_eq_none_iff, List.find?_eq_none, List.mem_reverse,
    Bool.and_eq_true, beq_iff_eq, ne_eq]
  exact ⟨fun h => h.2, fun h => ⟨fun d hd hname => h d hd hname.1, h⟩⟩

/-- A name that the current module of a well-formed graph declares stands for one declaration
    only. -/
theorem WellFormed.eq_of_answers (h : g.WellFormed) (hd : g.Answers name d) (he : g.Answers name e)
    (hcurrent : ∃ f ∈ g.types, f.name = name ∧ f.moduleName = g.current) : d = e := by
  obtain ⟨f, hf, hname, hmodule⟩ := hcurrent
  refine List.inj_on_of_nodup_map h.nodup_placements hd.mem he.mem ?_
  rw [Declaration.placement, Declaration.placement, hd.name_eq, he.name_eq,
    hd.current f hf hname hmodule, he.current f hf hname hmodule]

/-! ## Searching the modules -/

/-- One declaration at most is of the current module and of a name. -/
theorem WellFormed.eq_of_name_of_isCurrent (h : g.WellFormed) (hd : d ∈ g.types) (he : e ∈ g.types)
    (hdname : (d.name == name && g.isCurrent d.moduleName) = true)
    (hename : (e.name == name && g.isCurrent e.moduleName) = true) : d = e := by
  simp only [isCurrent, Bool.and_eq_true, beq_iff_eq] at hdname hename
  refine List.inj_on_of_nodup_map h.nodup_placements hd he ?_
  rw [Declaration.placement, Declaration.placement, hdname.1, hename.1, ← hdname.2, ← hename.2]

/-- The current module of a well-formed graph is found, and it lists the types that belong to it. -/
theorem WellFormed.exists_module?_current (h : g.WellFormed) :
    ∃ m ∈ g.modules, g.module? g.current = some m ∧
      ∀ d, d ∈ m.types ↔ d ∈ g.types ∧ d.moduleName = g.current := by
  obtain ⟨m, hm, hcurrent⟩ := h.current_mem
  have hfound : g.module? g.current = some m :=
    (List.find?_eq_some_iff_of_unique (List.eq_of_nodup_map h.nodup_modules)).mpr
      ⟨hm, beq_iff_eq.mpr hcurrent⟩
  refine ⟨m, hm, hfound, fun d => ⟨fun hd => ?_, fun ⟨hd, hmodule⟩ => ?_⟩⟩
  · exact ⟨List.mem_flatMap_of_mem hm hd, (h.listed m hm d hd).trans hcurrent⟩
  · -- The module that lists the type is of the same name
    obtain ⟨m', hm', hlisted⟩ := List.mem_flatMap.mp hd
    have hsame : m' = m := by
      refine List.inj_on_of_nodup_map h.nodup_modules hm' hm ?_
      rw [← h.listed m' hm' d hlisted, hmodule, hcurrent]
    exact hsame ▸ hlisted

/-- What stays entered for a name as a declaration of the current module is what a search of the
    current module finds. -/
theorem WellFormed.find?_current_eq (h : g.WellFormed) (name : String) :
    (g.types.reverse.find? fun d => d.name == name && g.isCurrent d.moduleName) =
      (g.module? g.current).bind fun m => m.types.find? (·.name == name) := by
  obtain ⟨m, hm, hfound, hlists⟩ := h.exists_module?_current
  rw [hfound, Option.bind_some]
  ext d
  -- Either search can find one declaration at most, so it does not count which comes first
  rw [List.find?_eq_some_iff_of_unique, List.find?_eq_some_iff_of_unique, List.mem_reverse, hlists]
  · simp only [isCurrent, Bool.and_eq_true, beq_iff_eq]
    exact ⟨fun ⟨hd, hname, hmodule⟩ => ⟨⟨hd, hmodule.symm⟩, hname⟩,
      fun ⟨⟨hd, hmodule⟩, hname⟩ => ⟨hd, hname, hmodule.symm⟩⟩
  · exact List.eq_of_nodup_map (h.nodup_types m hm)
  · exact fun d hd e he =>
      h.eq_of_name_of_isCurrent (List.mem_reverse.mp hd) (List.mem_reverse.mp he)

/-- In a graph that passes the check, a name is looked up as what a search of the modules finds. -/
theorem lookup_agrees_with_search (g : Graph) (hvalid : g.validate = .ok ()) (name : String) :
    g.lookup name = g.find? name := by
  rw [lookup_eq, find?, (validate_eq_ok_iff.mp hvalid).find?_current_eq]

/-- A build in which three modules declare a clock, and those that are referenced a watch as well;
    the current module is neither the first nor the last. -/
def clockmakers : Graph where
  current := "App"
  modules := [
    { name := "Oak", types := [.ofClass "Oak" "Clock", .ofClass "Oak" "Watch"] },
    { name := "App", types := [.ofInterface "App" "Clock"] },
    { name := "Elm", types := [.ofClass "Elm" "Watch", .ofClass "Elm" "Clock"] }]

/-- The clock is the one of the current module, and the watch the one that is listed first. -/
theorem clockmakers_agree_with_search :
    clockmakers.validate = .ok () ∧
      (∀ name, clockmakers.lookup name = clockmakers.find? name) ∧
      clockmakers.find? "Clock" = some (.ofInterface "App" "Clock") ∧
      clockmakers.find? "Watch" = some (.ofClass "Oak" "Watch") ∧
      clockmakers.find? "Bell" = none := by
  have hvalid : clockmakers.validate = .ok () := by decide
  exact ⟨hvalid, lookup_agrees_with_search clockmakers hvalid, by decide, by decide, by decide⟩

end Wiring.Graph
