/-
  Wiring.Proofs.Artifact.Provenance

  Comments on provenance in registration source. Whatever their level, they are lines that are put
  between the other lines, so two sources that differ in the level alone have the same code exactly
  if these comments have none. A comment writes names and files as they are: one that holds a line
  feed goes on outside of the comment.
-/

import Wiring.Generation
import Wiring.Proofs.Configuration.Coverage
import Wiring.Proofs.Plan.Proxies
import Wiring.Proofs.Text.Comment

namespace List

variable {α β : Type}

/-! ## Interleaving -/

/-- The list `all` has the elements of `base`, with those of `added` put between them. -/
inductive Interleaves : List α → List α → List α → Prop
  | nil : Interleaves [] [] []
  | keep (a : α) {base added all : List α} (h : Interleaves base added all) :
      Interleaves (a :: base) added (a :: all)
  | put (a : α) {base added all : List α} (h : Interleaves base added all) :
      Interleaves base (a :: added) (a :: all)

namespace Interleaves

variable {base added all base' added' all' : List α}

theorem refl : ∀ xs : List α, Interleaves xs [] xs
  | [] => .nil
  | x :: rest => .keep x (refl rest)

theorem append (h : Interleaves base added all) (h' : Interleaves base' added' all') :
    Interleaves (base ++ base') (added ++ added') (all ++ all') := by
  induction h with
  | nil => exact h'
  | keep a _ ih => exact .keep a ih
  | put a _ ih => exact .put a ih

/-- Elements that come before and after stay where they are. -/
theorem between (h : Interleaves base added all) (before after : List α) :
    Interleaves (before ++ base ++ after) added (before ++ all ++ after) := by
  have hall := ((refl before).append h).append (refl after)
  rwa [nil_append, append_nil] at hall

/-- Before what each entry makes, something is put for it. -/
theorem flatMap (entries : List β) (put make : β → List α) :
    Interleaves (entries.flatMap make) (entries.flatMap put)
      (entries.flatMap fun e => put e ++ make e) := by
  have hput : ∀ xs : List α, Interleaves [] xs xs := fun xs => by
    induction xs with
    | nil => exact .nil
    | cons x rest ih => exact .put x ih
  induction entries with
  | nil => exact .nil
  | cons e rest ih =>
      have hentry := (hput (put e)).append (refl (make e))
      rw [nil_append, append_nil] at hentry
      simp only [flatMap_cons]
      exact hentry.append ih

/-- What is put between the elements shows unless it makes nothing. -/
theorem flatMap_eq_iff (h : Interleaves base added all) (f : α → List β) :
    all.flatMap f = base.flatMap f ↔ ∀ a ∈ added, f a = [] := by
  have hlength : (all.flatMap f).length = (base.flatMap f).length + (added.flatMap f).length := by
    induction h with
    | nil => rfl
    | keep a _ ih => simp only [flatMap_cons, length_append]; omega
    | put a _ ih => simp only [flatMap_cons, length_append]; omega
  rw [← flatMap_eq_nil_iff]
  refine ⟨fun hsame => ?_, fun hnone => ?_⟩
  · rw [hsame] at hlength
    exact eq_nil_of_length_eq_zero (by omega)
  · clear hlength
    induction h with
    | nil => rfl
    | keep a _ ih => rw [flatMap_cons, flatMap_cons, ih hnone]
    | put a _ ih =>
        rw [flatMap_cons, append_eq_nil_iff] at hnone
        rw [flatMap_cons, hnone.1, nil_append, ih hnone.2]

end Interleaves
end List

namespace Wiring

/-- The options with another level of comments. -/
def Options.commenting (o : Options) (level : BreadcrumbLevel) : Options :=
  { o with breadcrumbs := level }

namespace Artifact.Source

open List (Interleaves)
open Text (codeRows withoutComments StaysInComment)

/-! ## What the comments say -/

/-- What a comment may say about an entry. -/
structure Provenance where
  moduleName : String
  name : String
  location : Option SourceLocation
  construction : Option Construction

namespace Provenance

/-- The comments of a level. -/
def comments (level : BreadcrumbLevel) (x : Provenance) : List String :=
  breadcrumbs level x.moduleName x.name x.location x.construction

/-- Behind the start of a comment, neither the names nor the place bring in code. -/
structure StaysInComments (x : Provenance) : Prop where
  names : StaysInComment (x.moduleName ++ " :: " ++ x.name)
  place : ∀ l ∈ x.location, StaysInComment (DiagnosticPlace.source l).text

/-- No name and no file has a line feed. -/
structure IsOneLine (x : Provenance) : Prop where
  moduleName : '\n' ∉ x.moduleName.toList
  name : '\n' ∉ x.name.toList
  file : ∀ l ∈ x.location, '\n' ∉ l.file.toList

end Provenance

/-- The entries of an artifact on which there are comments. -/
def provenances (p : Plan) : Kind → List Provenance
  | .services =>
    p.services.map (fun s => ⟨s.moduleName, s.name, s.location, some s.construction⟩) ++
    p.factories.map (fun f => ⟨f.moduleName, f.product, f.location, some f.construction⟩) ++
    p.proxies.map fun x => ⟨x.moduleName, x.service, x.location, none⟩
  | .plugins => p.plugins.map fun x => ⟨x.moduleName, x.name, x.location, none⟩
  | .configuration => p.bindings.map fun b => ⟨b.moduleName, b.boundType, b.location, none⟩
  | .decorators | .bootstrap | .report => []

/-! ## Comments without code -/

/-- What stands behind the start of a comment is no code as long as it stays in the comment. -/
theorem codeRows_line_eq_nil_iff (start : String) (hslashes : ['/', '/'] <+: start.toList)
    (hone : '\n' ∉ start.toList) (text : String) :
    codeRows (line 1 (start ++ text)) = [] ↔ StaysInComment text := by
  have hindent : indent 1 = "    " := by decide
  rw [line, hindent, ← String.append_assoc]
  refine Text.codeRows_append_eq_nil_iff ?_ (fun rest => ?_) text
  · rw [String.toList_append, List.mem_append, not_or]
    exact ⟨by decide, hone⟩
  · obtain ⟨what, hwhat⟩ := hslashes
    rw [String.toList_append, ← hwhat]
    rfl

theorem lineFeed_not_mem_toString (n : Nat) : '\n' ∉ (toString n).toList := by
  rw [Nat.toString_eq_ofList_toDigits, String.toList_ofList]
  intro h
  exact absurd (Nat.isDigit_of_mem_toDigits (by omega) (by omega) h) (by decide)

namespace Provenance

variable {x : Provenance}

/-- The comment on the names has no code exactly if they stay in it. -/
theorem codeRows_names_eq_nil_iff (x : Provenance) :
    codeRows (line 1 ("// " ++ x.moduleName ++ " :: " ++ x.name)) = [] ↔
      StaysInComment (x.moduleName ++ " :: " ++ x.name) := by
  have h := codeRows_line_eq_nil_iff "// " (by decide) (by decide)
    (x.moduleName ++ " :: " ++ x.name)
  simpa only [String.append_assoc] using h

/-- The comment on a constructor holds nothing but words and numbers. -/
theorem codeRows_construction (c : Construction) :
    codeRows (line 1 ("// constructor #" ++ toString c.index ++ " with " ++
      toString c.arguments.length ++ " argument(s)")) = [] := by
  have h := codeRows_line_eq_nil_iff "// constructor #" (by decide) (by decide)
    (toString c.index ++ " with " ++ toString c.arguments.length ++ " argument(s)")
  have hstays : StaysInComment
      (toString c.index ++ " with " ++ toString c.arguments.length ++ " argument(s)") := by
    refine Text.staysInComment_of_oneLine ?_
    simp only [String.toList_append, List.mem_append, lineFeed_not_mem_toString, false_or, or_false]
    decide
  simpa only [String.append_assoc] using h.mpr hstays

theorem codeRows_comments_eq_nil_iff (x : Provenance) :
    (∀ level, ∀ text ∈ x.comments level, codeRows text = []) ↔ x.StaysInComments := by
  have hplace := fun l : SourceLocation =>
    codeRows_line_eq_nil_iff "// declared at " (by decide) (by decide)
      (DiagnosticPlace.source l).text
  refine ⟨fun h => ⟨?_, fun l hl => ?_⟩, fun h level text htext => ?_⟩
  · exact x.codeRows_names_eq_nil_iff.mp (h .minimal _ (.head _))
  · refine (hplace l).mp (h .verbose _ ?_)
    simp [comments, breadcrumbs, Option.mem_def.mp hl]
  · cases level with
    | none => exact (List.not_mem_nil htext).elim
    | minimal =>
        rw [List.mem_singleton.mp htext]
        exact x.codeRows_names_eq_nil_iff.mpr h.names
    | verbose =>
        rw [comments, breadcrumbs, List.mem_append, List.mem_append, List.mem_singleton,
          Option.mem_toList, Option.mem_toList] at htext
        rcases htext with (rfl | htext) | htext
        · exact x.codeRows_names_eq_nil_iff.mpr h.names
        · obtain ⟨l, hl, rfl⟩ := Option.map_eq_some_iff.mp htext
          exact (hplace l).mpr (h.place l hl)
        · obtain ⟨c, -, rfl⟩ := Option.map_eq_some_iff.mp htext
          exact codeRows_construction c

theorem IsOneLine.staysInComments (h : x.IsOneLine) : x.StaysInComments where
  names := by
    refine Text.staysInComment_of_oneLine ?_
    simp only [String.toList_append, List.mem_append, h.moduleName, h.name, false_or, or_false]
    decide
  place l hl := by
    refine Text.staysInComment_of_oneLine ?_
    simp only [DiagnosticPlace.text, String.toList_append, List.mem_append, h.file l hl,
      lineFeed_not_mem_toString, false_or, or_false]
    decide

end Provenance

/-! ## Sources -/

/-- In a table, the comments on an entry come before its record. -/
theorem interleaves_table {α : Type} (name type : String) (entries : List α)
    (comments record : α → List String) :
    Interleaves (table name type (entries.flatMap record)) (entries.flatMap comments)
      (table name type (entries.flatMap fun e => comments e ++ record e)) :=
  (Interleaves.flatMap entries comments record).between
    ["pub static " ++ name ++ ": &[" ++ type ++ "] = &["] ["];"]

/-- A source with comments is one without comments, with the comments put between its lines. -/
theorem interleaves_body (o : Options) (p : Plan) (kind : Kind) :
    Interleaves (body (o.commenting .none) p kind)
      ((provenances p kind).flatMap (·.comments o.breadcrumbs)) (body o p kind) := by
  cases kind with
  | services =>
      have hservices := interleaves_table "SERVICES" "Registration" p.services
        (fun s => breadcrumbs o.breadcrumbs s.moduleName s.name s.location (some s.construction))
        (serviceLines (o.commenting .none) p)
      have hfactories := interleaves_table "FACTORIES" "FactoryRegistration" p.factories
        (fun f => breadcrumbs o.breadcrumbs f.moduleName f.product f.location (some f.construction))
        (factoryLines (o.commenting .none))
      have hproxies := interleaves_table "PROXIES" "ProxyRegistration" p.proxies
        (fun x => breadcrumbs o.breadcrumbs x.moduleName x.service x.location none)
        (proxyLines (o.commenting .none))
      have hall := (Interleaves.refl imports).append <|
        (((hservices.append (.refl [""])).append hfactories).append (.refl [""])).append hproxies
      simp only [List.append_nil, List.nil_append] at hall
      simp only [provenances, List.flatMap_append, List.flatMap_map]
      exact hall
  | plugins =>
      rw [provenances, List.flatMap_map]
      exact (Interleaves.refl imports).append <|
        interleaves_table "PLUGINS" "PluginRegistration" p.plugins
          (fun x => breadcrumbs o.breadcrumbs x.moduleName x.name x.location none)
          (pluginLines (o.commenting .none))
  | configuration =>
      rw [provenances, List.flatMap_map]
      have hbindings := Interleaves.flatMap p.bindings
        (fun b => breadcrumbs o.breadcrumbs b.moduleName b.boundType b.location none)
        (bindingStatement p.mode)
      exact (Interleaves.refl imports).append <| hbindings.between
        ["pub fn bind_configuration(binder: &mut dyn ConfigurationBinder) \x7b"] ["\x7d"]
  | decorators => exact .refl _
  | bootstrap => exact .refl _
  | report => exact .refl _

/-- The source of a kind without the lines that are comments. -/
def code (o : Options) (p : Plan) (kind : Kind) : String := withoutComments (text o p kind)

/-- At a level, a source has the code that it has without comments exactly if the comments of that
    level have none. -/
theorem code_eq_code_none_iff (o : Options) (p : Plan) (kind : Kind) :
    code o p kind = code (o.commenting .none) p kind ↔
      ∀ x ∈ provenances p kind, ∀ comment ∈ x.comments o.breadcrumbs, codeRows comment = [] := by
  have hbody := (Interleaves.refl (banner p kind)).append (interleaves_body o p kind)
  rw [code, code, text, text, Text.withoutComments_unlines_eq_iff, hbody.flatMap_eq_iff,
    List.nil_append, List.forall_mem_flatMap]

end Artifact.Source

open Artifact.Source (Provenance code provenances)

/-- A source has the same code at every level of comments if all that the comments say stays in
    them. -/
theorem Artifact.Source.code_commenting_eq {p : Plan} {kind : Artifact.Kind}
    (h : ∀ x ∈ provenances p kind, x.StaysInComments) (o : Options)
    (level level' : BreadcrumbLevel) :
    code (o.commenting level) p kind = code (o.commenting level') p kind := by
  have hnone : ∀ level, code (o.commenting level) p kind = code (o.commenting .none) p kind :=
    fun level => (code_eq_code_none_iff (o.commenting level) p kind).mpr fun x hx =>
      x.codeRows_comments_eq_nil_iff.mpr (h x hx) level
  exact (hnone level).trans (hnone level').symm

/-- Sources that differ in the level of their comments alone have the same code, exactly if all that
    the comments say stays in them. -/
theorem source_keeps_code_iff (o : Options) (p : Plan) (kind : Artifact.Kind) :
    (∀ level level', code (o.commenting level) p kind = code (o.commenting level') p kind) ↔
      ∀ x ∈ provenances p kind, x.StaysInComments := by
  refine ⟨fun h x hx => ?_, fun h => Artifact.Source.code_commenting_eq h o⟩
  refine x.codeRows_comments_eq_nil_iff.mp fun level => ?_
  exact (Artifact.Source.code_eq_code_none_iff (o.commenting level) p kind).mp
    (h level .none) x hx

/-! ## Plans of graphs -/

namespace Survey

variable {s : Survey}

/-- The comments on an entry of a plan are about a declaration of the graph. -/
theorem exists_declaration_of_mem_provenances {kind : Artifact.Kind} {x : Provenance}
    (h : x ∈ provenances s.plan kind) :
    ∃ d ∈ s.graph.scannedTypes, x.moduleName = d.moduleName ∧ x.name = d.name ∧
      x.location = d.location := by
  cases kind with
  | services =>
      rw [provenances, List.mem_append, List.mem_append, List.mem_map, List.mem_map,
        List.mem_map] at h
      obtain (⟨service, hentry, rfl⟩ | ⟨factory, hentry, rfl⟩) | ⟨proxy, hentry, rfl⟩ := h
      · obtain ⟨d, hd, hmade⟩ := exists_declaration_of_mem_sortBy s.services_allFindings hentry
        obtain ⟨c, -, rfl⟩ := Option.map_eq_some_iff.mp (Option.mem_toList.mp hmade)
        exact ⟨d, hd, rfl, rfl, rfl⟩
      · obtain ⟨d, hd, hmade⟩ := exists_declaration_of_mem_sortBy s.factories_allFindings hentry
        obtain ⟨c, -, rfl⟩ := Option.map_eq_some_iff.mp (Option.mem_toList.mp hmade)
        exact ⟨d, hd, rfl, rfl, rfl⟩
      · obtain ⟨d, hd, hmade⟩ := exists_declaration_of_mem_sortBy s.proxies_allFindings hentry
        have hproxy := Option.mem_toList.mp hmade
        unfold Declaration.proxy? at hproxy
        split at hproxy
        · cases hproxy
        · exact Option.some.inj hproxy ▸ ⟨d, hd, rfl, rfl, rfl⟩
  | plugins =>
      obtain ⟨plugin, hentry, rfl⟩ := List.mem_map.mp h
      obtain ⟨d, hd, hmade⟩ := exists_declaration_of_mem_sortBy s.plugins_allFindings hentry
      exact List.mem_singleton.mp hmade ▸ ⟨d, hd, rfl, rfl, rfl⟩
  | configuration =>
      obtain ⟨binding, hentry, rfl⟩ := List.mem_map.mp h
      obtain ⟨d, hd, -, hmade⟩ := mem_bindings_iff.mp (mem_plan_bindings_iff.mp hentry).1
      obtain ⟨request, -, rfl⟩ := List.mem_map.mp hmade
      exact ⟨d, hd, rfl, rfl, rfl⟩
  | decorators => exact (List.not_mem_nil h).elim
  | bootstrap => exact (List.not_mem_nil h).elim
  | report => exact (List.not_mem_nil h).elim

end Survey

/-- The sources of a graph have the same code at every level of comments if no name and no file of
    its declarations has a line feed. -/
theorem plan_keeps_code (g : Graph) (o : Options) (hvalid : g.validate = .ok ())
    (hone : ∀ d ∈ g.scannedTypes, '\n' ∉ d.moduleName.toList ∧ '\n' ∉ d.name.toList ∧
      ∀ l ∈ d.location, '\n' ∉ l.file.toList) :
    ∃ p, g.plan o = .ok p ∧ ∀ kind level level',
      code (o.commenting level) p kind = code (o.commenting level') p kind := by
  let s : Survey := ⟨g, o⟩
  refine ⟨s.plan, Graph.plan_eq_ok hvalid o, fun kind level level' => ?_⟩
  refine Artifact.Source.code_commenting_eq (fun x hx => ?_) o level level'
  obtain ⟨d, hd, hmodule, hname, hlocation⟩ := Survey.exists_declaration_of_mem_provenances hx
  obtain ⟨hmodule', hname', hfile⟩ := hone d hd
  exact Provenance.IsOneLine.staysInComments
    ⟨hmodule ▸ hmodule', hname ▸ hname', hlocation ▸ hfile⟩

/-! ## A name with a line feed -/

/-- A class whose name has a line feed is registered, and the comment on it brings in a line of
    code. -/
theorem clocks_leave_comment :
    (Graph.clocks "Backup.Clock\nmod springs;").validate = .ok () ∧
      ∃ p, (Graph.clocks "Backup.Clock\nmod springs;").plan {} = .ok p ∧
        code (Options.commenting {} .minimal) p .services ≠
          code (Options.commenting {} .none) p .services := by
  have hvalid : (Graph.clocks "Backup.Clock\nmod springs;").validate = .ok () := by decide
  let s : Survey := ⟨.clocks "Backup.Clock\nmod springs;", {}⟩
  refine ⟨hvalid, s.plan, Graph.plan_eq_ok hvalid {}, fun hsame => ?_⟩
  have hservices {place : Placement} : place ∈ s.plan.services.map Service.placement ↔
      ∃ d, s.graph.Registrable {} d ∧ d.placement = place :=
    Survey.mem_placements_services_iff
  obtain ⟨service, hs, hplace⟩ := List.mem_map.mp (hservices.mpr
    ⟨.clock "Backup" "Backup.Clock\nmod springs;",
      Graph.registrable_clocks (Graph.mem_scannedTypes_clocks.mpr (.inr rfl)), rfl⟩)
  let x : Provenance :=
    ⟨service.moduleName, service.name, service.location, some service.construction⟩
  have hx : x ∈ provenances s.plan .services :=
    List.mem_append_left _ (List.mem_append_left _ (List.mem_map_of_mem hs))
  have hstays := x.codeRows_names_eq_nil_iff.mp <|
    (Artifact.Source.code_eq_code_none_iff (Options.commenting {} .minimal) s.plan .services).mp
      hsame x hx _ (.head _)
  rw [show x.moduleName = "Backup" from congrArg Placement.moduleName hplace,
    show x.name = "Backup.Clock\nmod springs;" from congrArg Placement.typeName hplace] at hstays
  exact absurd (hstays "mod springs;".toList (by decide)) (by decide)

end Wiring
