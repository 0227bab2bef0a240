/-
  Wiring.Proofs.Decoration.Applied

  Where the layers of a plan's chains come from. Every layer is a decorator that is applied, and
  every decorator that is applied goes back to a planned declaration in one of two ways: a marker
  names its target, or a marker names an open target and the decorator is closed over an interface
  in use. `Declaration.Applies` keeps what is known in either case.
-/

import Wiring.Proofs.Decoration.Expansion
import Wiring.Proofs.Decoration.Linearization

namespace Wiring

/-! ## Markers -/

theorem Marker.decorated?_eq_some_iff {m : Marker} {target : TypeRef} {place : Int32} :
    m.decorated? = some (target, place) ↔ m = .decoratorFor target place := by
  cases m <;> simp [decorated?]

theorem Marker.openDecorated?_eq_some_iff {m : Marker} {target : TypeRef} {place : Int32} :
    m.openDecorated? = some (target, place) ↔ m = .openDecoratorFor target place := by
  cases m <;> simp [openDecorated?]

/-! ## Decorators that are applied -/

/-- A decorator that a marker of the declaration asks for, as it is applied. -/
inductive Declaration.Applies (d : Declaration) : Decorator → Prop
  /-- The marker names the target. -/
  | declared {target : TypeRef} {place : Int32} {c : Construction}
      (marked : .decoratorFor target place ∈ d.markers)
      (chosen : d.decoratorConstruction? target = some c) :
      d.Applies ⟨d.toRef, target, place, d.moduleName, c, false⟩
  /-- The marker names an open target, and the decorator is closed over an interface that
      matches. -/
  | synthesized {t interface : TypeRef} {place : Int32} {c : Construction}
      {bindings : TypeBindings}
      (marked : .openDecoratorFor t place ∈ d.markers)
      (target_open : t.isOpen = true)
      (chosen : d.decoratorConstruction? (d.ownTarget t) = some c)
      (interface_closed : interface.isOpen = false)
      (binds : (d.ownTarget t).bindAgainst interface = some bindings) :
      d.Applies ⟨d.toRef.substitute bindings, interface, place, d.moduleName,
        c.substitute bindings, true⟩

namespace Declaration

variable {d : Declaration} {x : Decorator} {o : OpenDecorator}

/-- A decorator is found for each marker that names a target for which it can be constructed. -/
theorem mem_decorators_iff :
    x ∈ d.decorators.successes ↔ ∃ target place c, .decoratorFor target place ∈ d.markers ∧
      d.decoratorConstruction? target = some c ∧
        x = ⟨d.toRef, target, place, d.moduleName, c, false⟩ := by
  simp only [List.mem_successes, decorators, List.mem_map, List.mem_filterMap, Prod.exists,
    Marker.decorated?_eq_some_iff, exists_eq_right, decorator]
  refine exists_congr fun target => exists_congr fun place => ?_
  cases d.decoratorConstruction? target with
  | none => simp
  | some c => simp [eq_comm]

theorem applies_of_mem_decorators (h : x ∈ d.decorators.successes) : d.Applies x := by
  obtain ⟨target, place, c, hmarker, hchosen, rfl⟩ := mem_decorators_iff.mp h
  exact .declared hmarker hchosen

/-- Whatever an open decorator is closed over, the declaration applies the outcome. -/
theorem applies_of_closeOver_eq_some {interface : TypeRef} (h : o ∈ d.openDecorators.successes)
    (hclose : o.closeOver interface = some x) : d.Applies x := by
  obtain ⟨⟨t, place⟩, hentry, hfound⟩ := List.mem_map.mp (List.mem_successes.mp h)
  obtain ⟨marker, hmarker, hdecorated⟩ := List.mem_filterMap.mp hentry
  obtain rfl := Marker.openDecorated?_eq_some_iff.mp hdecorated
  cases hopen : t.isOpen with
  | false =>
      -- A closed target is reported instead
      rw [openDecorator, hopen, if_neg Bool.false_ne_true] at hfound
      cases hfound
  | true =>
      obtain ⟨c, hchosen, rfl⟩ := (openDecorator_eq_ok_iff hopen).mp hfound
      obtain ⟨hclosed, bindings, hbind, rfl⟩ := OpenDecorator.closeOver_eq_some_iff.mp hclose
      exact .synthesized hmarker hopen hchosen hclosed hbind

end Declaration

namespace Survey

variable {s : Survey} {x : Decorator}

/-- Every decorator that is applied is one that a scanned declaration asks for in the role of a
    decorator or of an open decorator. -/
theorem exists_applies_of_mem_closedDecorators (h : x ∈ s.allFindings.closedDecorators) :
    ∃ d ∈ s.graph.scannedTypes,
      (s.plays d .decorator = true ∨ s.plays d .openDecorator = true) ∧ d.Applies x := by
  rcases List.mem_append.mp h with hdeclared | hclosed
  · -- A marker names the target
    rw [decorators_allFindings, mem_flatMap_plays] at hdeclared
    obtain ⟨d, hd, hplays, hfound⟩ := hdeclared
    exact ⟨d, hd, .inl hplays, Declaration.applies_of_mem_decorators hfound⟩
  · -- An open decorator is closed over an interface
    obtain ⟨o, ho, interface, -, hclose⟩ :=
      OpenDecorator.exists_closeOver_of_mem_closeAll hclosed
    rw [openDecorators_allFindings, mem_flatMap_plays] at ho
    obtain ⟨d, hd, hplays, hfound⟩ := ho
    exact ⟨d, hd, .inr hplays, Declaration.applies_of_closeOver_eq_some hfound hclose⟩

end Survey

/-! ## Chains and layers -/

/-- The targets of the chains of a plan have different texts. -/
theorem Survey.nodup_texts_chains (s : Survey) :
    (s.plan.chains.map fun c => c.target.text).Nodup := by
  -- The order of the chains does not count
  have hperm : s.plan.chains.Perm s.allFindings.chains := List.sortBy_perm _ _
  rw [(hperm.map _).nodup_iff]
  have hincreasing : (s.allFindings.chains.map fun c => c.target.text).Pairwise (· < ·) :=
    Chain.pairwise_target_compose
  exact hincreasing.imp String.ne_of_lt

/-- A chain of a plan has the target of a decorator that is applied, and its layers are decorators
    that are applied to a target of the same text. -/
theorem Survey.exists_of_mem_chains {s : Survey} {c : Chain} (h : c ∈ s.plan.chains) :
    (∃ x ∈ s.allFindings.closedDecorators, c.target = x.target) ∧
      ∀ l ∈ c.layers, ∃ x ∈ s.allFindings.closedDecorators,
        x.target.text = c.target.text ∧ ∃ position, l = x.layer position := by
  have hlinearizes := Chain.linearizes_of_mem_compose (List.mem_sortBy.mp h)
  obtain ⟨x, hx, htarget⟩ := hlinearizes.targeted
  refine ⟨⟨x, hx, htarget.symm⟩, fun l hl => ?_⟩
  obtain ⟨y, hy, htext, hlayer⟩ := hlinearizes.made l hl
  exact ⟨y, hy, htext, l.position, hlayer⟩

end Wiring
