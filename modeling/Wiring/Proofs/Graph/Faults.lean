/-
  Wiring.Proofs.Graph.Faults

  What the check says of a graph that it refuses. Each failure that it can report stands for a fault
  of the graph, and a graph is well formed if it has none of them. The check walks the modules with
  the names seen so far; what is reported at a step is a fault of the names seen together with those
  still to come, which is the same for all steps of the walk.
-/

import Wiring.Proofs.Graph.WellFormed
import Mathlib.Data.List.Duplicate

namespace List

variable {α : Type}

/-- An element that has been seen and comes again is there twice. -/
theorem duplicate_append_cons_of_mem {a : α} {seen rest : List α} (h : a ∈ seen) :
    Duplicate a (seen ++ a :: rest) := by
  rw [duplicate_iff_sublist]
  exact (singleton_sublist.mpr h).append (singleton_sublist.mpr (mem_cons_self ..))

/-- It does not count whether an element has been seen or comes next. -/
theorem duplicate_cons_append_iff [DecidableEq α] {a b : α} {seen rest : List α} :
    Duplicate a (b :: seen ++ rest) ↔ Duplicate a (seen ++ b :: rest) := by
  rw [duplicate_iff_two_le_count, duplicate_iff_two_le_count, perm_middle.count_eq, cons_append]

end List

namespace Wiring.Graph

variable {g : Graph} {failure : Failure}

/-! ## Faults -/

/-- A fault of a graph, as a failure names it. -/
inductive HasFault (g : Graph) : Failure → Prop where
  | duplicateModule {name : String} (h : List.Duplicate name (g.modules.map (·.name))) :
      HasFault g (.duplicateModule name)
  | moduleMismatch {m : CodeModule} {d : Declaration} (hm : m ∈ g.modules) (hd : d ∈ m.types)
      (h : d.moduleName ≠ m.name) : HasFault g (.moduleMismatch d.name m.name d.moduleName)
  | duplicateType {m : CodeModule} {name : String} (hm : m ∈ g.modules)
      (h : List.Duplicate name (m.types.map (·.name))) : HasFault g (.duplicateType m.name name)
  | unknownModule (h : ∀ m ∈ g.modules, m.name ≠ g.current) : HasFault g (.unknownModule g.current)

/-- The modules are in order, whichever of them is compiled: names are unique, and every type is
    listed under its module. -/
structure WellListed (g : Graph) : Prop where
  nodup_modules : (g.modules.map (·.name)).Nodup
  listed : ∀ m ∈ g.modules, ∀ d ∈ m.types, d.moduleName = m.name
  nodup_types : ∀ m ∈ g.modules, (m.types.map (·.name)).Nodup

/-- The faults are all that keeps a graph from being well formed. -/
theorem wellFormed_iff_forall_not_hasFault : g.WellFormed ↔ ∀ failure, ¬ g.HasFault failure := by
  refine ⟨?_, fun h => ?_⟩
  · rintro hwf failure (h | ⟨hm, hd, h⟩ | ⟨hm, h⟩ | h)
    · exact h.not_nodup hwf.nodup_modules
    · exact h (hwf.listed _ hm _ hd)
    · exact h.not_nodup (hwf.nodup_types _ hm)
    · obtain ⟨m, hm, hname⟩ := hwf.current_mem
      exact h m hm hname
  · constructor
    case nodup_modules =>
      exact List.nodup_iff_forall_not_duplicate.mpr fun _ hrepeated => h _ (.duplicateModule hrepeated)
    case listed =>
      intro m hm d hd
      by_contra hother
      exact h _ (.moduleMismatch hm hd hother)
    case nodup_types =>
      intro m hm
      exact List.nodup_iff_forall_not_duplicate.mpr fun _ hrepeated =>
        h _ (.duplicateType hm hrepeated)
    case current_mem =>
      by_contra hmissing
      exact h _ (.unknownModule fun m hm hname => hmissing ⟨m, hm, hname⟩)

/-! ## What the check reports -/

/-- What is reported of the types of a module: one that names another module, or a name that is
    there twice. -/
theorem fault_of_checkTypes {m : CodeModule} {seen : List String} {types : List Declaration}
    (h : checkTypes m seen types = .error failure) :
    (∃ d ∈ types, d.moduleName ≠ m.name ∧
        failure = .moduleMismatch d.name m.name d.moduleName) ∨
      ∃ name, List.Duplicate name (seen ++ types.map (·.name)) ∧
        failure = .duplicateType m.name name := by
  induction types generalizing seen with
  | nil => cases h
  | cons d rest ih =>
      unfold checkTypes at h
      split at h
      · rename_i hother
        cases h
        exact .inl ⟨d, .head _, bne_iff_ne.mp hother, rfl⟩
      · split at h
        · rename_i hseen
          cases h
          have hold := List.contains_iff_mem.mp hseen
          exact .inr ⟨d.name, List.duplicate_append_cons_of_mem hold, rfl⟩
        · -- The type is in order, so the report is on the rest
          rcases ih h with ⟨e, he, hother, rfl⟩ | ⟨name, hrepeated, rfl⟩
          · exact .inl ⟨e, .tail _ he, hother, rfl⟩
          · exact .inr ⟨name, List.duplicate_cons_append_iff.mp hrepeated, rfl⟩

/-- What is reported of the modules: a name that is there twice, or a fault among the types of one
    of them. -/
theorem fault_of_checkModules {seen : List String} {modules : List CodeModule}
    (h : checkModules seen modules = .error failure) :
    (∃ name, List.Duplicate name (seen ++ modules.map (·.name)) ∧
        failure = .duplicateModule name) ∨
      ∃ m ∈ modules, checkTypes m [] m.types = .error failure := by
  induction modules generalizing seen with
  | nil => cases h
  | cons m rest ih =>
      unfold checkModules at h
      split at h
      · rename_i hseen
        cases h
        have hold := List.contains_iff_mem.mp hseen
        exact .inl ⟨m.name, List.duplicate_append_cons_of_mem hold, rfl⟩
      · split at h
        · rename_i hfail
          cases h
          exact .inr ⟨m, .head _, hfail⟩
        · -- The module is in order, so the report is on the rest
          rcases ih h with ⟨name, hrepeated, rfl⟩ | ⟨e, he, hfail⟩
          · exact .inl ⟨name, List.duplicate_cons_append_iff.mp hrepeated, rfl⟩
          · exact .inr ⟨e, .tail _ he, hfail⟩

/-- A report on the modules names a fault of the graph, and never the current module. -/
theorem hasFault_of_checkModules (h : checkModules [] g.modules = .error failure) :
    g.HasFault failure ∧ ∀ name, failure ≠ .unknownModule name := by
  rcases fault_of_checkModules h with ⟨name, hrepeated, rfl⟩ | ⟨m, hm, hfail⟩
  · exact ⟨.duplicateModule hrepeated, nofun⟩
  · rcases fault_of_checkTypes hfail with ⟨d, hd, hother, rfl⟩ | ⟨name, hrepeated, rfl⟩
    · exact ⟨.moduleMismatch hm hd hother, nofun⟩
    · exact ⟨.duplicateType hm hrepeated, nofun⟩

/-- The modules pass the check if they are in order. -/
theorem checkModules_eq_ok_iff_wellListed :
    checkModules [] g.modules = .ok () ↔ g.WellListed := by
  rw [checkModules_eq_ok_iff]
  refine ⟨fun ⟨hnodup, _, heach⟩ => ?_, fun h => ?_⟩
  · exact ⟨hnodup, fun m hm => (heach m hm).1, fun m hm => (heach m hm).2⟩
  · exact ⟨h.nodup_modules, fun _ _ => List.not_mem_nil,
      fun m hm => ⟨h.listed m hm, h.nodup_types m hm⟩⟩

/-- The check misses the current module only where nothing else is wrong. -/
theorem validate_eq_unknownModule_iff {name : String} :
    g.validate = .error (.unknownModule name) ↔
      g.WellListed ∧ name = g.current ∧ ∀ m ∈ g.modules, m.name ≠ g.current := by
  rw [← checkModules_eq_ok_iff_wellListed]
  unfold validate
  split
  · rename_i failure hfail
    have hother := (hasFault_of_checkModules hfail).2 name
    rw [hfail]
    exact ⟨fun h => absurd (Except.error.inj h) hother, fun h => nomatch h.1⟩
  · rename_i hok
    rw [and_iff_right hok]
    split
    · rename_i hcurrent
      obtain ⟨m, hm, hname⟩ := List.any_eq_true.mp hcurrent
      exact ⟨nofun, fun h => absurd (beq_iff_eq.mp hname) (h.2 m hm)⟩
    · rename_i hmissing
      simp only [List.any_eq_true, beq_iff_eq, not_exists, not_and] at hmissing
      rw [Except.error.injEq, Failure.unknownModule.injEq]
      exact ⟨fun h => ⟨h.symm, hmissing⟩, fun h => h.1.symm⟩

/-- The check accepts the well-formed graphs and no others. Of any other graph it names a fault that
    the graph has; that fault is the missing current module only where the modules are in order. -/
theorem validate_names_fault (g : Graph) :
    (g.validate = .ok () ↔ g.WellFormed) ∧
      (∀ failure, g.validate = .error failure → g.HasFault failure) ∧
      ∀ name, g.validate = .error (.unknownModule name) ↔
        g.WellListed ∧ name = g.current ∧ ∀ m ∈ g.modules, m.name ≠ g.current := by
  refine ⟨validate_eq_ok_iff, fun failure h => ?_, fun _ => validate_eq_unknownModule_iff⟩
  unfold validate at h
  split at h
  · rename_i hfail
    cases h
    exact (hasFault_of_checkModules hfail).1
  · split at h
    · cases h
    · rename_i hmissing
      cases h
      simp only [List.any_eq_true, beq_iff_eq, not_exists, not_and] at hmissing
      exact .unknownModule hmissing

/-- A build without its own module, of a library that declares some clocks. -/
def clockStock (clocks : List String) : Graph where
  current := "App"
  modules := [{ name := "Lib", types := clocks.map (Declaration.ofClass "Lib") }]

/-- If the library declares a clock twice then this is the fault that is named; else it is the
    missing module. -/
theorem clockStock_names_fault :
    (clockStock ["Lib.Clock", "Lib.Watch", "Lib.Clock"]).validate =
        .error (.duplicateType "Lib" "Lib.Clock") ∧
      (clockStock ["Lib.Clock", "Lib.Watch", "Lib.Clock"]).HasFault
        (.duplicateType "Lib" "Lib.Clock") ∧
      ¬ (clockStock ["Lib.Clock", "Lib.Watch", "Lib.Clock"]).WellFormed ∧
      (clockStock ["Lib.Clock", "Lib.Watch"]).validate = .error (.unknownModule "App") ∧
      (clockStock ["Lib.Clock", "Lib.Watch"]).WellListed := by
  have htwice : (clockStock ["Lib.Clock", "Lib.Watch", "Lib.Clock"]).validate =
      .error (.duplicateType "Lib" "Lib.Clock") := by decide
  have hmissing : (clockStock ["Lib.Clock", "Lib.Watch"]).validate =
      .error (.unknownModule "App") := by decide
  obtain ⟨haccepts, hnames, -⟩ :=
    validate_names_fault (clockStock ["Lib.Clock", "Lib.Watch", "Lib.Clock"])
  obtain ⟨-, -, hlast⟩ := validate_names_fault (clockStock ["Lib.Clock", "Lib.Watch"])
  refine ⟨htwice, hnames _ htwice, fun hwf => ?_, hmissing, ((hlast "App").mp hmissing).1⟩
  rw [haccepts.mpr hwf] at htwice
  cases htwice

end Wiring.Graph
