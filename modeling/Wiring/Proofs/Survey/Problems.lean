/-
  Wiring.Proofs.Survey.Problems

  Which problems the findings may report, and what they say of them. Every role has problems of its
  own, and reports no others; besides them only decorators are reported that belong to types without
  instances. A message quotes the declaration that it is about, and what a marker of it asks for.
-/

import Wiring.Survey.Findings
import Wiring.Proofs.Listing.Outcomes

namespace Wiring

/-- The problems that a declaration may have in a role. -/
def Role.problems : Role → List Problem
  | .service | .plugin => []
  | .decorator => [.decoratorMissingInner]
  | .openDecorator => [.decoratorMissingInner, .openDecoratorTargetClosed]
  | .factorySource => [.factoryUnnecessary]
  | .configuration => [.configurationTypeNotExtensible, .validatorUnused]
  | .intercepted => [.interceptedWithoutInterface]

/-- The problems that a marker for a decorator may have. -/
def Problem.ofDecorators : List Problem :=
  [.decoratorMissingInner, .openDecoratorTargetClosed, .decoratorNotConstructible]

/-- What may be reported about a declaration: a problem, with what is said in its message. -/
inductive Declaration.Reports (d : Declaration) : Problem → List String → Prop
  | unreached : d.Reports .inaccessibleCandidate [d.name, d.moduleName]
  | decoration {problem : Problem} {target : TypeRef} (hproblem : problem ∈ Problem.ofDecorators)
      (htarget : target ∈ d.markers.filterMap Marker.anyDecorated?) :
      d.Reports problem [d.name, target.text]
  | needlessFactory : d.Reports .factoryUnnecessary [d.name]
  | unmakeable : d.Reports .configurationTypeNotExtensible [d.name]
  | unusedValidator {request : SectionRequest} {validator : Validator}
      (hrequest : request ∈ d.sectionRequests)
      (hvalidator : d.validator? request = some validator) :
      d.Reports .validatorUnused [d.name, validator.text, request.labelFor d.name]
  | nothingToProxy : d.Reports .interceptedWithoutInterface [d.name]

namespace Diagnostic

/-- The diagnostic reports one of the problems, as severe as it is. -/
def IsOneOf (e : Diagnostic) (problems : List Problem) : Prop :=
  ∃ problem ∈ problems, ∃ args place, e = .of problem args place

/-- The diagnostic reports one of the problems of a declaration. -/
def IsAbout (e : Diagnostic) (d : Declaration) (problems : List Problem) : Prop :=
  ∃ problem ∈ problems, ∃ args, d.Reports problem args ∧ e = .about d problem args

variable {e : Diagnostic} {d : Declaration} {problems : List Problem}

theorem isAbout_about {problem : Problem} {args : List String} (hproblem : problem ∈ problems)
    (hreports : d.Reports problem args) : (about d problem args).IsAbout d problems :=
  ⟨problem, hproblem, args, hreports, rfl⟩

theorem IsAbout.isOneOf (h : e.IsAbout d problems) : e.IsOneOf problems := by
  obtain ⟨problem, hproblem, args, -, rfl⟩ := h
  exact ⟨problem, hproblem, args, _, rfl⟩

theorem IsOneOf.problem_mem (h : e.IsOneOf problems) : e.problem ∈ problems := by
  obtain ⟨problem, hproblem, args, place, rfl⟩ := h
  exact hproblem

end Diagnostic

/-! ## The reports of a declaration -/

theorem Marker.anyDecorated?_of_decorated? {marker : Marker} {target : TypeRef} {place : Int32}
    (h : marker.decorated? = some (target, place)) : marker.anyDecorated? = some target := by
  cases marker with
  | decoratorFor => exact congrArg (Option.map Prod.fst) h
  | _ => cases h

theorem Marker.anyDecorated?_of_openDecorated? {marker : Marker} {target : TypeRef} {place : Int32}
    (h : marker.openDecorated? = some (target, place)) : marker.anyDecorated? = some target := by
  cases marker with
  | openDecoratorFor => exact congrArg (Option.map Prod.fst) h
  | _ => cases h

namespace Declaration

variable {d : Declaration} {e : Diagnostic}

theorem isAbout_of_mem_decorators (h : e ∈ d.decorators.failures) :
    e.IsAbout d Role.decorator.problems := by
  obtain ⟨⟨target, place⟩, hentry, hfail⟩ := List.mem_map.mp (List.mem_failures.mp h)
  obtain ⟨marker, hmarker, hasked⟩ := List.mem_filterMap.mp hentry
  have htarget : target ∈ d.markers.filterMap Marker.anyDecorated? :=
    List.mem_filterMap.mpr ⟨marker, hmarker, Marker.anyDecorated?_of_decorated? hasked⟩
  unfold decorator at hfail
  dsimp only at hfail
  split at hfail
  · cases hfail
  · cases hfail
    exact Diagnostic.isAbout_about (by decide) (.decoration (by decide) htarget)

theorem isAbout_of_mem_openDecorators (h : e ∈ d.openDecorators.failures) :
    e.IsAbout d Role.openDecorator.problems := by
  obtain ⟨⟨target, place⟩, hentry, hfail⟩ := List.mem_map.mp (List.mem_failures.mp h)
  obtain ⟨marker, hmarker, hasked⟩ := List.mem_filterMap.mp hentry
  have htarget : target ∈ d.markers.filterMap Marker.anyDecorated? :=
    List.mem_filterMap.mpr ⟨marker, hmarker, Marker.anyDecorated?_of_openDecorated? hasked⟩
  unfold openDecorator at hfail
  dsimp only at hfail
  split at hfail
  · split at hfail
    · cases hfail
    · cases hfail
      exact Diagnostic.isAbout_about (by decide) (.decoration (by decide) htarget)
  · cases hfail
    exact Diagnostic.isAbout_about (by decide) (.decoration (by decide) htarget)

theorem isAbout_of_mem_unconstructibleDecorators (h : e ∈ d.unconstructibleDecorators) :
    e.IsAbout d [.decoratorNotConstructible] := by
  obtain ⟨target, htarget, rfl⟩ := List.mem_map.mp h
  exact Diagnostic.isAbout_about (by decide) (.decoration (by decide) htarget)

theorem isAbout_of_mem_factoryDiagnostics (h : e ∈ d.factoryDiagnostics) :
    e.IsAbout d Role.factorySource.problems := by
  unfold factoryDiagnostics at h
  split at h
  · split at h
    · cases h
    · cases List.mem_singleton.mp h
      exact Diagnostic.isAbout_about (by decide) .needlessFactory
  · cases h

theorem isAbout_of_mem_proxyDiagnostics {interfaces : List TypeRef}
    (h : e ∈ d.proxyDiagnostics interfaces) : e.IsAbout d Role.intercepted.problems := by
  unfold proxyDiagnostics at h
  split at h
  · cases List.mem_singleton.mp h
    exact Diagnostic.isAbout_about (by decide) .nothingToProxy
  · cases h

theorem isAbout_of_mem_unusedValidator {request : SectionRequest}
    (hrequest : request ∈ d.sectionRequests) (h : e ∈ d.unusedValidator request) :
    e.IsAbout d Role.configuration.problems := by
  unfold unusedValidator at h
  split at h
  · cases h
  · split at h
    · rename_i validator hvalidator
      cases List.mem_singleton.mp h
      exact Diagnostic.isAbout_about (by decide) (.unusedValidator hrequest hvalidator)
    · cases h

theorem isAbout_of_mem_bindingDiagnostics (h : e ∈ d.bindingDiagnostics) :
    e.IsAbout d Role.configuration.problems := by
  unfold bindingDiagnostics at h
  split at h
  · cases h
  · rcases List.mem_append.mp h with hextend | hvalidate
    · split at hextend
      · cases hextend
      · cases List.mem_singleton.mp hextend
        exact Diagnostic.isAbout_about (by decide) .unmakeable
    · obtain ⟨request, hrequest, hunused⟩ := List.mem_flatMap.mp hvalidate
      exact isAbout_of_mem_unusedValidator hrequest hunused

end Declaration

namespace Survey

variable {s : Survey} {d : Declaration} {e : Diagnostic}

/-- What is reported about a declaration in a role is a problem of the role. -/
theorem isAbout_of_mem_contribution (role : Role)
    (h : e ∈ (s.contribution d role).diagnostics) : e.IsAbout d role.problems := by
  cases role with
  | service | plugin => cases h
  | decorator => exact Declaration.isAbout_of_mem_decorators h
  | openDecorator => exact Declaration.isAbout_of_mem_openDecorators h
  | factorySource => exact Declaration.isAbout_of_mem_factoryDiagnostics h
  | configuration => exact Declaration.isAbout_of_mem_bindingDiagnostics h
  | intercepted => exact Declaration.isAbout_of_mem_proxyDiagnostics h

theorem isOneOf_of_mem_contribution (role : Role)
    (h : e ∈ (s.contribution d role).diagnostics) : e.IsOneOf role.problems :=
  (isAbout_of_mem_contribution role h).isOneOf

/-- What is reported of decorators that no role takes up. -/
theorem isAbout_of_mem_lostDecorators (h : e ∈ (s.lostDecorators d).diagnostics) :
    e.IsAbout d [.decoratorNotConstructible] := by
  unfold lostDecorators at h
  dsimp only at h
  split at h
  · exact Declaration.isAbout_of_mem_unconstructibleDecorators h
  · cases h

theorem isOneOf_of_mem_lostDecorators (h : e ∈ (s.lostDecorators d).diagnostics) :
    e.IsOneOf [.decoratorNotConstructible] :=
  (isAbout_of_mem_lostDecorators h).isOneOf

end Survey
end Wiring
