/-
  Wiring.Proofs.Survey.DecoratorMarkers

  What becomes of the markers that ask for decorators. Each one that is in reach is answered, and
  answered once: by a decorator, by an open decorator, or by a diagnostic. Which of them it is
  depends on nothing but the declaration and the marker, though the answers are given in three
  places: by two roles, and by a check of the types that can play neither.
-/

import Wiring.Proofs.Survey.Findings
import Wiring.Proofs.Survey.Problems

namespace Wiring

/-! ## Markers and answers -/

/-- Whether the marker asks for a decorator, open or not. -/
def Marker.asksForDecorator : Marker → Bool
  | .decoratorFor .. | .openDecoratorFor .. => true
  | _ => false

/-- Whether the problem is one of a decorator. -/
def Problem.concernsDecorator : Problem → Bool
  | .decoratorMissingInner | .openDecoratorTargetClosed | .decoratorNotConstructible => true
  | _ => false

/-- What a marker that asks for a decorator is answered with. -/
inductive DecoratorAnswer where
  | made (decorator : Decorator)
  | madeOpen (decorator : OpenDecorator)
  | refused (problem : Diagnostic)

/-- All answers among the findings. -/
def Findings.decoratorAnswers (found : Findings) : List DecoratorAnswer :=
  found.decorators.map .made ++ found.openDecorators.map .madeOpen ++
    (found.diagnostics.filter (·.problem.concernsDecorator)).map .refused

/-- The answer names the declaration, and what its marker asks for. -/
def Declaration.IsAnsweredBy (d : Declaration) (marker : Marker) : DecoratorAnswer → Prop
  | .made x => marker = .decoratorFor x.target x.order ∧
      x.type = d.toRef ∧ x.moduleName = d.moduleName
  | .madeOpen o => ∃ target, marker = .openDecoratorFor target o.order ∧
      o.target = d.ownTarget target ∧ o.type = d.toRef ∧ o.moduleName = d.moduleName
  | .refused e => ∃ target, marker.anyDecorated? = some target ∧
      ∃ problem, e = .about d problem [d.name, target.text]

/-- The markers of a module that ask for decorators, with the declarations that carry them; of the
    declarations that lie in a planned namespace and that generated code can reach. -/
def Survey.decoratorRequests (s : Survey) (m : CodeModule) : List (Declaration × Marker) :=
  (m.types.filter fun d => s.covers d && s.reaches d).flatMap fun d =>
    (d.markers.filter Marker.asksForDecorator).map fun marker => (d, marker)

/-! ## The answer to one marker -/

namespace Declaration

/-- The outcome as an answer. -/
def answerOf {α : Type} (made : α → DecoratorAnswer) : Except Diagnostic α → DecoratorAnswer
  | .ok x => made x
  | .error e => .refused e

/-- The answer to a marker for a decorator, from a type with instances. -/
def answer? (d : Declaration) (marker : Marker) : Option DecoratorAnswer :=
  marker.decorated?.map fun entry => answerOf .made (d.decorator entry.1 entry.2)

/-- The answer to a marker for an open decorator, from a type with instances. -/
def openAnswer? (d : Declaration) (marker : Marker) : Option DecoratorAnswer :=
  marker.openDecorated?.map fun entry => answerOf .madeOpen (d.openDecorator entry.1 entry.2)

/-- The answer to a marker for a decorator of either kind. -/
def anyAnswer? (d : Declaration) (marker : Marker) : Option DecoratorAnswer :=
  if d.isConcreteClass then (d.answer? marker).or (d.openAnswer? marker)
  else marker.anyDecorated?.map fun target =>
    .refused (d.decorationProblem .decoratorNotConstructible target)

variable {d : Declaration}

theorem anyAnswer?_of_concrete (h : d.isConcreteClass = true) :
    d.anyAnswer? = fun marker => (d.answer? marker).or (d.openAnswer? marker) := by
  funext marker
  rw [anyAnswer?, if_pos h]

theorem anyAnswer?_of_abstract (h : d.isConcreteClass = false) :
    d.anyAnswer? = fun marker => marker.anyDecorated?.map fun target =>
      .refused (d.decorationProblem .decoratorNotConstructible target) := by
  funext marker
  rw [anyAnswer?, h, if_neg Bool.false_ne_true]

/-- No marker asks for both kinds of decorators. -/
theorem answer?_eq_none_or (d : Declaration) (marker : Marker) :
    d.answer? marker = none ∨ d.openAnswer? marker = none := by
  cases marker with
  | decoratorFor => exact .inr rfl
  | _ => exact .inl rfl

theorem isAnsweredBy_decorator (d : Declaration) (target : TypeRef) (place : Int32) :
    d.IsAnsweredBy (.decoratorFor target place) (answerOf .made (d.decorator target place)) := by
  unfold decorator
  split
  · exact ⟨rfl, rfl, rfl⟩
  · exact ⟨target, rfl, _, rfl⟩

theorem isAnsweredBy_openDecorator (d : Declaration) (target : TypeRef) (place : Int32) :
    d.IsAnsweredBy (.openDecoratorFor target place)
      (answerOf .madeOpen (d.openDecorator target place)) := by
  unfold openDecorator
  split
  · dsimp only
    split
    · exact ⟨target, rfl, rfl, rfl, rfl⟩
    · exact ⟨target, rfl, _, rfl⟩
  · exact ⟨target, rfl, _, rfl⟩

/-- A marker that asks for a decorator has an answer, and no other marker has. -/
theorem anyAnswer?_cases (d : Declaration) (marker : Marker) :
    (marker.asksForDecorator = true ∧
        ∃ answer, d.anyAnswer? marker = some answer ∧ d.IsAnsweredBy marker answer) ∨
      marker.asksForDecorator = false ∧ d.anyAnswer? marker = none := by
  unfold anyAnswer?
  cases marker with
  | decoratorFor target place =>
      refine .inl ⟨rfl, ?_⟩
      split
      · exact ⟨_, rfl, d.isAnsweredBy_decorator target place⟩
      · exact ⟨_, rfl, target, rfl, _, rfl⟩
  | openDecoratorFor target place =>
      refine .inl ⟨rfl, ?_⟩
      split
      · exact ⟨_, rfl, d.isAnsweredBy_openDecorator target place⟩
      · exact ⟨_, rfl, target, rfl, _, rfl⟩
  | _ => exact .inr ⟨rfl, ite_self none⟩

/-- The answers of a declaration stand for its markers that ask for decorators, one by one. -/
theorem forall₂_isAnsweredBy (d : Declaration) (markers : List Marker) :
    List.Forall₂ (fun (request : Declaration × Marker) answer =>
        request.1.IsAnsweredBy request.2 answer)
      ((markers.filter Marker.asksForDecorator).map fun marker => (d, marker))
      (markers.filterMap d.anyAnswer?) := by
  induction markers with
  | nil => exact .nil
  | cons marker rest ih =>
      rcases d.anyAnswer?_cases marker with ⟨hasks, answer, hanswer, hanswered⟩ | ⟨hasks, hnone⟩
      · rw [List.filter_cons_of_pos hasks, List.map_cons, List.filterMap_cons_some hanswer]
        exact .cons hanswered ih
      · rw [List.filter_cons_of_neg (by simp [hasks]), List.filterMap_cons_none hnone]
        exact ih

end Declaration

/-! ## The answers among the findings -/

/-- The answers among all findings are those of the parts. -/
theorem Findings.decoratorAnswers_join (name : String) (parts : List Findings) :
    (Findings.join name parts).decoratorAnswers.Perm (parts.flatMap (·.decoratorAnswers)) := by
  unfold decoratorAnswers join
  simp only [List.map_flatMap, List.filter_flatMap]
  exact ((List.flatMap_append_perm parts _ _).append_right _).trans
    (List.flatMap_append_perm parts _ _)

namespace Survey

variable {s : Survey} {d : Declaration}

/-- A role whose problems are none of decorators answers no markers by diagnostics. -/
theorem filter_contribution_eq_nil {role : Role}
    (hrole : ∀ problem ∈ role.problems, problem.concernsDecorator = false) :
    (s.contribution d role).diagnostics.filter (·.problem.concernsDecorator) = [] := by
  rw [List.filter_eq_nil_iff]
  intro e he
  have hother := hrole _ (isOneOf_of_mem_contribution role he).problem_mem
  simp [hother]

/-- A role whose problems are all of decorators answers markers by all its diagnostics. -/
theorem filter_contribution_eq_self {role : Role}
    (hrole : ∀ problem ∈ role.problems, problem.concernsDecorator = true) :
    (s.contribution d role).diagnostics.filter (·.problem.concernsDecorator) =
      (s.contribution d role).diagnostics := by
  rw [List.filter_eq_self]
  intro e he
  exact hrole _ (isOneOf_of_mem_contribution role he).problem_mem

theorem decoratorAnswers_decorator :
    (s.contribution d .decorator).decoratorAnswers.Perm (d.markers.filterMap d.answer?) := by
  have hanswers : d.markers.filterMap d.answer? =
      d.decorators.map (Declaration.answerOf .made) := by
    rw [Declaration.decorators, List.map_map, List.map_filterMap]
    rfl
  rw [Findings.decoratorAnswers, filter_contribution_eq_self (by decide), hanswers]
  have hperm := List.successes_append_failures_perm (Declaration.answerOf .made) d.decorators
  exact (List.append_nil _).symm ▸ hperm

theorem decoratorAnswers_openDecorator :
    (s.contribution d .openDecorator).decoratorAnswers.Perm
      (d.markers.filterMap d.openAnswer?) := by
  have hanswers : d.markers.filterMap d.openAnswer? =
      d.openDecorators.map (Declaration.answerOf .madeOpen) := by
    rw [Declaration.openDecorators, List.map_map, List.map_filterMap]
    rfl
  rw [Findings.decoratorAnswers, filter_contribution_eq_self (by decide), hanswers]
  exact List.successes_append_failures_perm (Declaration.answerOf .madeOpen) d.openDecorators

/-- No other role answers markers for decorators. -/
theorem decoratorAnswers_of_ne (role : Role) (hdecorator : role ≠ .decorator)
    (hopen : role ≠ .openDecorator) : (s.contribution d role).decoratorAnswers = [] := by
  rw [Findings.decoratorAnswers]
  cases role with
  | decorator => exact absurd rfl hdecorator
  | openDecorator => exact absurd rfl hopen
  | service | plugin => rfl
  | factorySource | configuration | intercepted =>
      rw [filter_contribution_eq_nil (by decide)]
      rfl

/-- A role that fits wherever there are markers for it answers them all. -/
theorem decoratorAnswers_of_fits {role : Role} {asked? : Marker → Option (TypeRef × Int32)}
    {answer : TypeRef × Int32 → DecoratorAnswer} (hadmits : s.admits d = true)
    (hfits : s.fits d role = d.markers.any fun marker => (asked? marker).isSome)
    (hanswers : (s.contribution d role).decoratorAnswers.Perm
      (d.markers.filterMap fun marker => (asked? marker).map answer)) :
    (if s.plays d role then (s.contribution d role).decoratorAnswers else []).Perm
      (d.markers.filterMap fun marker => (asked? marker).map answer) := by
  split
  · exact hanswers
  · rename_i hplays
    have hnone : ∀ marker ∈ d.markers, asked? marker = none := by
      simpa [plays, hadmits, hfits] using hplays
    rw [List.filterMap_eq_nil_iff.mpr fun marker hm => by rw [hnone marker hm, Option.map_none]]

/-- The two roles answer the markers of a type with instances. -/
theorem decoratorAnswers_roles (hadmits : s.admits d = true)
    (hconcrete : d.isConcreteClass = true) :
    (((s.roles d).map (s.contribution d)).flatMap (·.decoratorAnswers)).Perm
      (d.markers.filterMap d.anyAnswer?) := by
  have hroles : ((s.roles d).map (s.contribution d)).flatMap (·.decoratorAnswers) =
      (if s.plays d .decorator then (s.contribution d .decorator).decoratorAnswers else []) ++
        if s.plays d .openDecorator then (s.contribution d .openDecorator).decoratorAnswers
          else [] := by
    rw [flatMap_contribution]
    simp [Role.all, decoratorAnswers_of_ne]
  have hdecorator : s.fits d .decorator = d.markers.any (·.decorated?.isSome) := by
    rw [fits, hconcrete, Bool.and_true]
  have hopen : s.fits d .openDecorator = d.markers.any (·.openDecorated?.isSome) := by
    rw [fits, hconcrete, Bool.and_true]
  rw [hroles, Declaration.anyAnswer?_of_concrete hconcrete]
  exact ((decoratorAnswers_of_fits hadmits hdecorator decoratorAnswers_decorator).append
    (decoratorAnswers_of_fits hadmits hopen decoratorAnswers_openDecorator)).trans
      (List.filterMap_append_filterMap_perm d.answer?_eq_none_or d.markers)

/-- The check answers the markers of a type without instances, for which no role is played. -/
theorem decoratorAnswers_lostDecorators (hadmits : s.admits d = true)
    (habstract : d.isConcreteClass = false) :
    (s.lostDecorators d).decoratorAnswers = d.markers.filterMap d.anyAnswer? := by
  have hlost : (s.lostDecorators d).diagnostics = d.unconstructibleDecorators := by
    simp [lostDecorators, hadmits, habstract]
  have hall : (s.lostDecorators d).diagnostics.filter (·.problem.concernsDecorator) =
      (s.lostDecorators d).diagnostics := by
    rw [List.filter_eq_self]
    intro e he
    rw [List.mem_singleton.mp (isOneOf_of_mem_lostDecorators he).problem_mem]
    rfl
  rw [Findings.decoratorAnswers, hall, hlost, Declaration.unconstructibleDecorators,
    Declaration.anyAnswer?_of_abstract habstract, List.map_map, List.map_filterMap]
  rfl

/-- What is found in a declaration in reach answers its markers, and nothing is found in others. -/
theorem decoratorAnswers_findingsIn (s : Survey) (d : Declaration) :
    ((s.findingsIn d).flatMap (·.decoratorAnswers)).Perm
      (if s.admits d then d.markers.filterMap d.anyAnswer? else []) := by
  rw [findingsIn, List.flatMap_cons]
  cases hadmits : s.admits d with
  | false =>
      have hroles : s.roles d = [] := by
        simp [roles, plays, hadmits]
      have hlost : (s.lostDecorators d).decoratorAnswers = [] := by
        simp [lostDecorators, Findings.decoratorAnswers, hadmits]
      rw [hroles, hlost]
      exact .refl _
  | true =>
      cases hconcrete : d.isConcreteClass with
      | false =>
          have hroles : ((s.roles d).map (s.contribution d)).flatMap (·.decoratorAnswers) = [] := by
            rw [flatMap_contribution]
            simp [Role.all, decoratorAnswers_of_ne, plays, fits, hconcrete]
          rw [hroles, List.append_nil, decoratorAnswers_lostDecorators hadmits hconcrete]
          exact .refl _
      | true =>
          have hlost : (s.lostDecorators d).decoratorAnswers = [] := by
            simp [lostDecorators, Findings.decoratorAnswers, hconcrete]
          rw [hlost, List.nil_append, if_pos rfl]
          exact decoratorAnswers_roles hadmits hconcrete

/-- The answers in a module are those to the markers of its declarations in reach. -/
theorem decoratorAnswers_findings (s : Survey) (m : CodeModule) :
    (s.findings m).decoratorAnswers.Perm
      ((m.types.filter s.admits).flatMap fun d => d.markers.filterMap d.anyAnswer?) := by
  have hfound : (s.findings m).decoratorAnswers.Perm
      (m.types.flatMap fun d => (s.findingsIn d).flatMap (·.decoratorAnswers)) := by
    rw [← List.flatMap_assoc]
    exact Findings.decoratorAnswers_join m.name _
  rw [List.flatMap_filter]
  exact hfound.trans (.flatMap_left _ fun d _ => s.decoratorAnswers_findingsIn d)

end Survey

/-- Every marker for a decorator, on a declaration in reach, is answered by one decorator or by one
    diagnostic, which name the declaration; and nothing else is. -/
theorem findings_answer_decorator_markers (s : Survey) (m : CodeModule) :
    ((m.types.filter fun d => s.covers d && s.reaches d).flatMap (·.markers)).countP
          Marker.asksForDecorator =
        (s.findings m).decorators.length + (s.findings m).openDecorators.length +
          (s.findings m).diagnostics.countP (·.problem.concernsDecorator) ∧
      ∃ answers, answers.Perm (s.findings m).decoratorAnswers ∧
        List.Forall₂ (fun request answer => request.1.IsAnsweredBy request.2 answer)
          (s.decoratorRequests m) answers := by
  have hanswers := s.decoratorAnswers_findings m
  have hone : List.Forall₂ (fun request answer => request.1.IsAnsweredBy request.2 answer)
      (s.decoratorRequests m)
      ((m.types.filter s.admits).flatMap fun d => d.markers.filterMap d.anyAnswer?) :=
    List.rel_flatMap (R := Eq) (List.forall₂_refl _) fun {d _} hsame =>
      hsame ▸ d.forall₂_isAnsweredBy d.markers
  refine ⟨?_, _, hanswers.symm, hone⟩
  have hrequests : (s.decoratorRequests m).length =
      ((m.types.filter fun d => s.covers d && s.reaches d).flatMap (·.markers)).countP
        Marker.asksForDecorator := by
    simp [Survey.decoratorRequests, List.countP_eq_length_filter, List.filter_flatMap]
  have hfound : (s.findings m).decoratorAnswers.length =
      (s.findings m).decorators.length + (s.findings m).openDecorators.length +
        (s.findings m).diagnostics.countP (·.problem.concernsDecorator) := by
    simp [Findings.decoratorAnswers, List.countP_eq_length_filter, Nat.add_assoc]
  rw [← hrequests, ← hfound, hone.length_eq, hanswers.length_eq]

/-- A decorator of mailers, with markers for a clock that it cannot take and for an open decorator
    of something closed. -/
def Declaration.overmarked : Declaration :=
  { ofClass "App" "App.Logging" with
    constructors := [⟨.anyone, [⟨"inner", .ofInterface "App.IMailer", none⟩]⟩]
    markers := [.decoratorFor (.ofInterface "App.IMailer") 1, .factorySource,
      .decoratorFor (.ofInterface "App.IClock") 2,
      .openDecoratorFor (.ofInterface "App.IMailer") 3] }

/-- A module with the decorator, and with a type of the same markers that has no instances. -/
def CodeModule.overmarked : CodeModule where
  name := "App"
  types := [.overmarked, { Declaration.overmarked with isAbstract := true }]

/-- One of the six markers is answered by a decorator, and five by diagnostics. -/
theorem overmarked_answers_decorator_markers :
    let found := (Survey.mk { current := "App", modules := [.overmarked] } {}).findings .overmarked
    found.decorators.length = 1 ∧ found.openDecorators.length = 0 ∧
      found.diagnostics.countP (·.problem.concernsDecorator) = 5 ∧
      found.decoratorAnswers.length = 6 := by
  intro found
  obtain ⟨-, answers, hperm, hone⟩ := findings_answer_decorator_markers
    (Survey.mk { current := "App", modules := [.overmarked] } {}) .overmarked
  have hsix : found.decoratorAnswers.length = 6 := hperm.length_eq.symm.trans hone.length_eq.symm
  exact ⟨by decide, by decide, by decide, hsix⟩

end Wiring
