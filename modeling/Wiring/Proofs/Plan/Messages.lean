/-
  Wiring.Proofs.Plan.Messages

  The messages of a plan. Whatever is reported about a graph quotes its names, its decorated
  targets, or what its sections ask for, and supplies an argument for each place of the template.
  Where none of these strings holds a brace, no place of a message is left open and no argument is
  taken for a place.
-/

import Wiring.Proofs.Diagnostic.Message
import Wiring.Proofs.Diagnostic.Order
import Wiring.Proofs.Survey.Findings
import Wiring.Proofs.Survey.Problems
import Wiring.Proofs.TypeRef.Text

namespace Wiring

/-! ## Strings that a message may quote -/

/-- The strings of a request for a section that a message may quote. -/
def SectionRequest.quotable (request : SectionRequest) : List String :=
  request.path.toList ++ request.instanceName.toList ++
    request.validator.toList.flatMap TypeRef.names

/-- The strings of a marker that a message may quote. -/
def Marker.quotable : Marker → List String
  | .decoratorFor target _ | .openDecoratorFor target _ => target.names
  | .configurationSection request => request.quotable
  | _ => []

theorem Marker.quotable_of_anyDecorated? {marker : Marker} {target : TypeRef}
    (h : marker.anyDecorated? = some target) : marker.quotable = target.names := by
  cases marker with
  | decoratorFor | openDecoratorFor => exact congrArg TypeRef.names (Option.some.inj h)
  | _ => cases h

theorem Marker.quotable_of_section? {marker : Marker} {request : SectionRequest}
    (h : marker.section? = some request) : marker.quotable = request.quotable := by
  cases marker with
  | configurationSection => exact congrArg SectionRequest.quotable (Option.some.inj h)
  | _ => cases h

/-- The strings of a declaration that a message may quote. -/
def Declaration.quotable (d : Declaration) : List String :=
  d.name :: d.moduleName :: (d.methods.map (·.name) ++ d.markers.flatMap Marker.quotable)

/-- The strings of a graph that a message may quote. -/
def Graph.quotable (g : Graph) : List String :=
  g.modules.flatMap fun m => m.name :: m.types.flatMap Declaration.quotable

/-! ## Parts of names -/

theorem QualifiedName.subset_of_splitLastDot {cs before after : List Char}
    (h : splitLastDot cs = some (before, after)) : after ⊆ cs := by
  induction cs generalizing before with
  | nil => cases h
  | cons c rest ih =>
      rw [splitLastDot] at h
      split at h
      · rename_i first last hrest
        cases h
        exact List.subset_cons_of_subset c (ih hrest)
      · split at h
        · cases h
          exact List.subset_cons_self ..
        · cases h

theorem QualifiedName.simple_subset (name : String) : (simple name).toList ⊆ name.toList := by
  unfold simple
  split
  · rename_i before after hsplit
    rw [String.toList_ofList]
    exact subset_of_splitLastDot hsplit
  · exact List.Subset.refl _

theorem subset_of_dropSuffix? {name suffix rest : String}
    (h : dropSuffix? name suffix = some rest) : rest.toList ⊆ name.toList := by
  unfold dropSuffix? at h
  dsimp only at h
  split at h
  · cases h
  · cases h
    rw [String.toList_ofList]
    exact List.take_subset ..

/-- A section that is inferred is a part of the name of the type. -/
theorem inferSection_subset (typeName : String) :
    (inferSection typeName).toList ⊆ typeName.toList := by
  have hsimple := QualifiedName.simple_subset typeName
  unfold inferSection
  dsimp only
  cases hfound : sectionSuffixes.findSome? (dropSuffix? (QualifiedName.simple typeName)) with
  | none => exact hsimple
  | some rest =>
      obtain ⟨suffix, -, hdrop⟩ := List.exists_of_findSome?_eq_some hfound
      exact List.Subset.trans (subset_of_dropSuffix? hdrop) hsimple

/-! ## Arguments without braces -/

variable {g : Graph} {d : Declaration} {e : Diagnostic} {problem : Problem} {args : List String}

theorem TypeRef.brace_not_mem_text {ref : TypeRef} (h : ∀ name ∈ ref.names, '\x7b' ∉ name.toList) :
    '\x7b' ∉ ref.text.toList := by
  intro hbrace
  rcases TypeRef.mem_text ref hbrace with haround | ⟨name, hname, hin⟩
  · exact absurd haround (by decide)
  · exact h name hname hin

namespace SectionRequest

variable {request : SectionRequest} {typeName : String}

theorem brace_not_mem_pathFor (hname : '\x7b' ∉ typeName.toList)
    (h : ∀ text ∈ request.quotable, '\x7b' ∉ text.toList) :
    '\x7b' ∉ (request.pathFor typeName).toList := by
  have hinferred : '\x7b' ∉ (inferSection typeName).toList :=
    fun hbrace => hname (inferSection_subset typeName hbrace)
  unfold pathFor
  split
  · rename_i path hpath
    split
    · exact hinferred
    · exact h path (by simp [quotable, hpath])
  · exact hinferred

theorem brace_not_mem_labelFor (hname : '\x7b' ∉ typeName.toList)
    (h : ∀ text ∈ request.quotable, '\x7b' ∉ text.toList) :
    '\x7b' ∉ (request.labelFor typeName).toList := by
  have hpath := brace_not_mem_pathFor hname h
  unfold labelFor
  split
  · rename_i name hinstance
    have hquoted : '\x7b' ∉ name.toList := h name (by simp [quotable, hinstance])
    rw [Text.not_mem_append_iff, Text.not_mem_append_iff, Text.not_mem_append_iff]
    exact ⟨⟨⟨hpath, by decide⟩, hquoted⟩, by decide⟩
  · exact hpath

end SectionRequest

namespace Declaration

/-- A validator is written by what the request or a method of the declaration is called. -/
theorem brace_not_mem_validator {request : SectionRequest} {validator : Validator}
    (hmethods : ∀ m ∈ d.methods, '\x7b' ∉ m.name.toList)
    (hrequest : ∀ text ∈ request.quotable, '\x7b' ∉ text.toList)
    (h : d.validator? request = some validator) : '\x7b' ∉ validator.text.toList := by
  unfold validator? at h
  split at h
  · rename_i type htype
    cases h
    refine TypeRef.brace_not_mem_text fun name hname => hrequest name ?_
    simp only [SectionRequest.quotable, htype, Option.toList_some, List.flatMap_singleton,
      List.mem_append]
    exact .inr hname
  · obtain ⟨m, hfound, rfl⟩ := Option.map_eq_some_iff.mp h
    rw [Validator.text, Text.not_mem_append_iff]
    exact ⟨hmethods m (List.mem_of_find?_eq_some hfound), by decide⟩

/-- What is said about a declaration has an argument for each place. -/
theorem Reports.places (h : d.Reports problem args) :
    ∀ index ∈ problem.template.holes, index < args.length := by
  -- The problems of decorators take the same two arguments
  have hdecorators : ∀ problem ∈ Problem.ofDecorators, ∀ index ∈ problem.template.holes,
      index < 2 := by decide
  cases h with
  | unreached =>
      show ∀ index ∈ Problem.inaccessibleCandidate.template.holes, index < 2
      decide
  | decoration hproblem => exact hdecorators problem hproblem
  | needlessFactory =>
      show ∀ index ∈ Problem.factoryUnnecessary.template.holes, index < 1
      decide
  | unmakeable =>
      show ∀ index ∈ Problem.configurationTypeNotExtensible.template.holes, index < 1
      decide
  | unusedValidator =>
      show ∀ index ∈ Problem.validatorUnused.template.holes, index < 3
      decide
  | nothingToProxy =>
      show ∀ index ∈ Problem.interceptedWithoutInterface.template.holes, index < 1
      decide

theorem Reports.plain (h : d.Reports problem args)
    (hplain : ∀ text ∈ d.quotable, '\x7b' ∉ text.toList) : ∀ arg ∈ args, '\x7b' ∉ arg.toList := by
  have hname : '\x7b' ∉ d.name.toList := hplain _ (by simp [quotable])
  have hmodule : '\x7b' ∉ d.moduleName.toList := hplain _ (by simp [quotable])
  have hmethods : ∀ m ∈ d.methods, '\x7b' ∉ m.name.toList := by
    intro m hm
    refine hplain m.name ?_
    simp only [quotable, List.mem_cons, List.mem_append]
    exact .inr (.inr (.inl (List.mem_map_of_mem hm)))
  have hmarkers : ∀ marker ∈ d.markers, ∀ text ∈ marker.quotable, '\x7b' ∉ text.toList := by
    intro marker hmarker text htext
    refine hplain text ?_
    simp only [quotable, List.mem_cons, List.mem_append]
    exact .inr (.inr (.inr (List.mem_flatMap.mpr ⟨marker, hmarker, htext⟩)))
  cases h with
  | unreached => simp [hname, hmodule]
  | @decoration problem target hproblem htarget =>
      obtain ⟨marker, hmarker, hasked⟩ := List.mem_filterMap.mp htarget
      have htarget := hmarkers marker hmarker
      rw [Marker.quotable_of_anyDecorated? hasked] at htarget
      have htext : '\x7b' ∉ target.text.toList := TypeRef.brace_not_mem_text htarget
      simp [hname, htext]
  | needlessFactory => simp [hname]
  | unmakeable => simp [hname]
  | @unusedValidator request validator hrequest hvalidator =>
      obtain ⟨marker, hmarker, hasked⟩ := List.mem_filterMap.mp hrequest
      have hrequest := hmarkers marker hmarker
      rw [Marker.quotable_of_section? hasked] at hrequest
      have hlabel := SectionRequest.brace_not_mem_labelFor hname hrequest
      simp [hname, brace_not_mem_validator hmethods hrequest hvalidator, hlabel]
  | nothingToProxy => simp [hname]

end Declaration

/-! ## Reports about a graph -/

/-- What may be reported about a graph: something about one of its declarations, or that a module
    holds so many plugins but takes no part in the build. -/
inductive Graph.Reports (g : Graph) : Diagnostic → Prop
  | declared {d : Declaration} {problem : Problem} {args : List String} (hd : d ∈ g.types)
      (h : d.Reports problem args) : g.Reports (.about d problem args)
  | silent {m : CodeModule} {d : Declaration} (count : Nat) (hm : m ∈ g.modules)
      (hd : d ∈ m.types) :
      g.Reports (.of .moduleNotParticipating [m.name, d.name, toString count] (.codeModule m.name))

/-- Whatever is reported about a graph has its arguments, and they are quoted from the graph. -/
theorem Graph.Reports.supplies (h : g.Reports e)
    (hplain : ∀ text ∈ g.quotable, '\x7b' ∉ text.toList) : e.Supplies := by
  have hdeclared : ∀ m ∈ g.modules, ∀ d ∈ m.types, ∀ text ∈ d.quotable, '\x7b' ∉ text.toList := by
    intro m hm d hd text htext
    refine hplain text (List.mem_flatMap.mpr ⟨m, hm, List.mem_cons_of_mem _ ?_⟩)
    exact List.mem_flatMap.mpr ⟨d, hd, htext⟩
  cases h with
  | declared hd h =>
      obtain ⟨m, hm, hd⟩ := List.mem_flatMap.mp hd
      exact ⟨h.places, h.plain (hdeclared m hm _ hd)⟩
  | @silent m d count hm hd =>
      refine ⟨?_, ?_⟩
      · show ∀ index ∈ Problem.moduleNotParticipating.template.holes, index < 3
        decide
      · have hmodule : '\x7b' ∉ m.name.toList :=
          hplain _ (List.mem_flatMap.mpr ⟨m, hm, List.mem_cons_self ..⟩)
        have hname : '\x7b' ∉ d.name.toList :=
          hdeclared m hm d hd _ (List.mem_cons_self ..)
        have hcount : '\x7b' ∉ (toString count).toList := by
          rw [Nat.toString_eq_ofList_toDigits, String.toList_ofList]
          exact fun hbrace => absurd (isDigit_of_mem_digits hbrace) (by decide)
        intro arg harg
        rcases harg with _ | ⟨_, _ | ⟨_, _ | ⟨_, hnone⟩⟩⟩
        · exact hmodule
        · exact hname
        · exact hcount
        · cases hnone

namespace Survey

variable {s : Survey}

theorem reports_of_isAbout {problems : List Problem} (hd : d ∈ s.graph.scannedTypes)
    (h : e.IsAbout d problems) : s.graph.Reports e := by
  obtain ⟨problem, -, args, hreports, rfl⟩ := h
  exact .declared (s.graph.scannedTypes_sublist.mem hd) hreports

theorem reports_of_mem_allFindings (h : e ∈ s.allFindings.diagnostics) : s.graph.Reports e := by
  rw [s.allFindings_part (·.diagnostics) fun _ _ => rfl] at h
  obtain ⟨d, hplanned, hd⟩ := List.mem_flatMap.mp h
  obtain ⟨found, hfound, he⟩ := List.mem_flatMap.mp hd
  have hscanned := mem_plannedTypes.mp hplanned
  rcases List.mem_cons.mp hfound with rfl | hrole
  · -- Decorators that no role takes up
    exact reports_of_isAbout hscanned (isAbout_of_mem_lostDecorators he)
  · -- What the roles report
    obtain ⟨role, -, rfl⟩ := List.mem_map.mp hrole
    exact reports_of_isAbout hscanned (isAbout_of_mem_contribution role he)

theorem reports_of_mem_check (h : e ∈ s.check) : s.graph.Reports e := by
  rcases List.mem_append.mp h with hlost | hsilent
  · obtain ⟨d, hd, rfl⟩ := List.mem_map.mp hlost
    exact .declared (s.graph.scannedTypes_sublist.mem (List.mem_of_mem_filter hd)) .unreached
  · obtain ⟨m, hm, hplugins⟩ := List.mem_filterMap.mp hsilent
    have hmodule : m ∈ s.graph.modules := List.mem_of_mem_filter (List.mem_sortBy.mp hm)
    unfold silentPlugins at hplugins
    split at hplugins
    · cases hplugins
    · rename_i first rest hfound
      cases hplugins
      have hfirst : first ∈ m.types.filter s.isPluginCandidate := hfound ▸ List.mem_cons_self ..
      exact .silent _ hmodule (List.mem_of_mem_filter hfirst)

/-- Every diagnostic of a plan is something that may be reported about its graph. -/
theorem reports_of_mem_diagnostics (h : e ∈ s.plan.diagnostics) : s.graph.Reports e := by
  have hall : e ∈ s.allFindings.diagnostics ++ s.check := List.mem_sortDistinct.mp h
  rcases List.mem_append.mp hall with hfound | hcheck
  · exact reports_of_mem_allFindings hfound
  · exact reports_of_mem_check hcheck

end Survey

/-! ## The messages of a plan -/

/-- Where no string that a message may quote holds a brace, every message of a plan is its template
    with all places filled. -/
theorem plan_fills_messages (g : Graph) (o : Options) (hvalid : g.validate = .ok ())
    (hplain : ∀ text ∈ g.quotable, '\x7b' ∉ text.toList) :
    ∃ p, g.plan o = .ok p ∧ ∀ e ∈ p.diagnostics, e.IsFilled := by
  refine ⟨Survey.plan ⟨g, o⟩, Graph.plan_eq_ok hvalid o, fun e he => ?_⟩
  have hreports : g.Reports e := Survey.reports_of_mem_diagnostics he
  exact (hreports.supplies hplain).isFilled

/-- A build with settings that have a validator nobody calls, and a class that nothing outside of
    its own enclosing class can name. -/
def Graph.mailSettings : Graph where
  current := "App"
  modules := [{
    name := "App"
    types := [
      ((Declaration.ofClass "App" "App.MailSettings").withMethod { name := "Validate" }).withMarker
        (.configurationSection { instanceName := some "primary" }),
      (Declaration.ofClass "App" "App.Outbox").nestedIn .owner] }]

/-- The plan reports the class out of reach before the validator that is not called. -/
theorem Survey.diagnostics_mailSettings :
    (Survey.mk .mailSettings {}).plan.diagnostics =
      [.of .inaccessibleCandidate ["App.Outbox", "App"] (.codeModule "App"),
        .of .validatorUnused ["App.MailSettings", "Validate()", "Mail (primary)"]
          (.codeModule "App")] := by
  have hreports : (Survey.mk .mailSettings {}).allFindings.diagnostics ++
      (Survey.mk .mailSettings {}).check =
        [.of .validatorUnused ["App.MailSettings", "Validate()", "Mail (primary)"]
            (.codeModule "App"),
          .of .inaccessibleCandidate ["App.Outbox", "App"] (.codeModule "App")] := by
    decide +kernel
  refine List.sortDistinct_eq_of_pairwise_lt Diagnostic.order (fun e => ?_) (by decide +kernel)
  rw [hreports, List.mem_pair, List.mem_pair, or_comm]

theorem mailSettings_fills_messages :
    Graph.mailSettings.validate = .ok () ∧
      (∀ text ∈ Graph.mailSettings.quotable, '\x7b' ∉ text.toList) ∧
      ∃ p, Graph.mailSettings.plan {} = .ok p ∧ (∀ e ∈ p.diagnostics, e.IsFilled) ∧
        p.diagnostics.map Diagnostic.message =
          ["Type 'App.Outbox' in module 'App' is eligible for registration but is not publicly " ++
            "reachable from generated code",
          "Configuration type 'App.MailSettings' has validator 'Validate()' but binding " ++
            "'Mail (primary)' does not validate on start"] := by
  have hvalid : Graph.mailSettings.validate = .ok () := by decide
  have hplain : ∀ text ∈ Graph.mailSettings.quotable, '\x7b' ∉ text.toList := by decide
  obtain ⟨p, hp, hfilled⟩ := plan_fills_messages Graph.mailSettings {} hvalid hplain
  refine ⟨hvalid, hplain, p, hp, hfilled, ?_⟩
  -- Each message is its template with all places filled at once
  rw [List.map_congr_left fun e he => (hfilled e he).message]
  rw [Graph.eq_plan_of_plan_eq_ok hvalid hp, Survey.diagnostics_mailSettings]
  decide +kernel

end Wiring
