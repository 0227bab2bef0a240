/-
  Wiring.Proofs.Plan.ModuleOrder

  What of a plan depends on the order in which the modules of the graph are listed: nothing but its
  bindings, and these only if a name in them may stand for declarations of several referenced
  modules that are not bound alike. The first of these modules in the list is the one that counts.
-/

import Wiring.Generation
import Wiring.Proofs.Configuration.Coverage
import Wiring.Proofs.Survey.ModuleOrder

namespace Wiring

namespace Survey

variable {g g' : Graph} (h : g.Reorders g') (o : Options)
include h

/-- The plans for two orders of the modules are the same but for their bindings, and these are the
    same if those found are. -/
theorem plan_eq_of_reorders (hwf : g.WellFormed) :
    (mk g' o).plan = { (mk g o).plan with bindings := (mk g' o).plan.bindings } ∧
      ((mk g o).allFindings.bindings = (mk g' o).allFindings.bindings →
        (mk g' o).plan = (mk g o).plan) := by
  have hpart : ∀ {α : Type} (part : Findings → List α),
      (∀ name parts, part (.join name parts) = parts.flatMap part) →
      (∀ f bindings, part { f with bindings } = part f) →
      part (mk g' o).allFindings = part (mk g o).allFindings :=
    fun part hjoin hbindings => (allFindings_part_eq_of_reorders h o hwf part hjoin hbindings).symm
  have hservices := hpart (·.services) (fun _ _ => rfl) (fun _ _ => rfl)
  have hplugins := hpart (·.plugins) (fun _ _ => rfl) (fun _ _ => rfl)
  have hdecorators := hpart (·.decorators) (fun _ _ => rfl) (fun _ _ => rfl)
  have hopen := hpart (·.openDecorators) (fun _ _ => rfl) (fun _ _ => rfl)
  have hfactories := hpart (·.factories) (fun _ _ => rfl) (fun _ _ => rfl)
  have hproxies := hpart (·.proxies) (fun _ _ => rfl) (fun _ _ => rfl)
  have hfound := hpart (·.diagnostics) (fun _ _ => rfl) (fun _ _ => rfl)
  have hchains : (mk g' o).allFindings.chains = (mk g o).allFindings.chains := by
    rw [Findings.chains, Findings.chains, Findings.closedDecorators, Findings.closedDecorators,
      hservices, hdecorators, hopen]
  have hdiagnostics :
      Diagnostic.inOrder ((mk g' o).allFindings.diagnostics ++ (mk g' o).check) =
        Diagnostic.inOrder ((mk g o).allFindings.diagnostics ++ (mk g o).check) := by
    refine Diagnostic.inOrder_eq_of_mem_iff fun d => ?_
    rw [List.mem_append, List.mem_append, hfound, mem_check_iff_of_reorders h o hwf]
  refine ⟨?_, fun hbindings => ?_⟩ <;>
    simp only [plan, Plan.inOrder, ← h.current, ← h.participating_eq hwf, hservices, hplugins,
      hfactories, hproxies, hchains, hdiagnostics]
  rw [hbindings]

end Survey

/-- Two orders of the modules give plans that are the same but for their bindings. They give the
    same plan, and so the same artifacts, if the names in the bindings are clear. -/
theorem plan_eq_of_reordered_modules (g g' : Graph) (o : Options) (hvalid : g.validate = .ok ())
    (hreorders : g.Reorders g') :
    ∃ p p', g.plan o = .ok p ∧ g'.plan o = .ok p' ∧ p' = { p with bindings := p'.bindings } ∧
      ((∀ d ∈ g.scannedTypes, (Survey.mk g o).plays d .configuration = true →
          g.BindsClearly d) →
        p' = p ∧ ∀ r, Generation.run r o g' = Generation.run r o g) := by
  have hwf := Graph.validate_eq_ok_iff.mp hvalid
  have hvalid' := Graph.validate_eq_ok_iff.mpr (hreorders.wellFormed hwf)
  obtain ⟨hparts, hsame⟩ := Survey.plan_eq_of_reorders hreorders o hwf
  refine ⟨_, _, Graph.plan_eq_ok hvalid o, Graph.plan_eq_ok hvalid' o, hparts, fun hclear => ?_⟩
  have hplan := hsame (Survey.bindings_allFindings_eq_of_reorders hreorders o hwf hclear)
  refine ⟨hplan, fun r => ?_⟩
  rw [Generation.run, Generation.run, Graph.plan_eq_ok hvalid, Graph.plan_eq_ok hvalid', hplan]

/-! ## A name that two modules declare -/

/-- A class that is bound to a section and holds a color. -/
def Declaration.palette : Declaration :=
  ((ofClass "App" "App.Palette").withProperty
    { name := "Shade", type := .ofEnum "Shared.Color" }).withMarker (.configurationSection {})

/-- A build that references modules with paints, each of which declares its colors. -/
def Graph.paintShop (paints : List (String × List String)) : Graph where
  current := "App"
  modules := { name := "App", types := [.palette] } :: paints.map fun paint =>
    { name := paint.1, types := [.ofEnum paint.1 "Shared.Color" paint.2] }

theorem Graph.paintShop_reorders {paints paints' : List (String × List String)}
    (hperm : paints.Perm paints') : (paintShop paints).Reorders (paintShop paints') :=
  ⟨rfl, (hperm.map _).cons _⟩

/-- If all paints come in the same colors, the order of their modules does not count. -/
theorem paintShop_eq_of_reordered_modules :
    (Graph.paintShop [("Oils", ["Red"]), ("Pastels", ["Red"])]).validate = .ok () ∧
      (Graph.paintShop [("Oils", ["Red"]), ("Pastels", ["Red"])]).Reorders
        (.paintShop [("Pastels", ["Red"]), ("Oils", ["Red"])]) ∧
      ∃ p, (Graph.paintShop [("Oils", ["Red"]), ("Pastels", ["Red"])]).plan {} = .ok p ∧
        (Graph.paintShop [("Pastels", ["Red"]), ("Oils", ["Red"])]).plan {} = .ok p ∧
        ∀ r, Generation.run r {} (.paintShop [("Pastels", ["Red"]), ("Oils", ["Red"])]) =
          Generation.run r {} (.paintShop [("Oils", ["Red"]), ("Pastels", ["Red"])]) := by
  have hvalid : (Graph.paintShop [("Oils", ["Red"]), ("Pastels", ["Red"])]).validate = .ok () := by
    decide
  have hreorders := Graph.paintShop_reorders (.swap ("Pastels", ["Red"]) ("Oils", ["Red"]) [])
  have hclear := (Graph.validate_eq_ok_iff.mp hvalid).bindsClearly (by decide)
  obtain ⟨p, p', hp, hp', -, hsame⟩ := plan_eq_of_reordered_modules _ _ {} hvalid hreorders
  obtain ⟨rfl, hrun⟩ := hsame fun d _ _ => hclear d
  exact ⟨hvalid, hreorders, p', hp, hp', hrun⟩

/-- The shade of the palette is one of the colors that the lookup finds. -/
theorem Declaration.properties_binding_palette {g : Graph} (color : Declaration)
    (hcolor : g.lookup "Shared.Color" = some color) :
    (palette.binding g {}).properties =
      [⟨"Shade", .ofEnum "Shared.Color", false, false,
        .enum "Shared.Color" color.enumMembers⟩] := by
  have hcoercion : g.coercion? ["App.Palette"] (.ofEnum "Shared.Color") =
      some (.enum "Shared.Color" color.enumMembers) := by
    have hscalar : Coercion.scalar? (.ofEnum "Shared.Color") = none := by decide
    have henum : Coercion.enum? (.ofEnum "Shared.Color") (some color) =
        some (.enum "Shared.Color" color.enumMembers) := rfl
    have hresolve : g.resolve (.ofEnum "Shared.Color") = some color := hcolor
    rw [Graph.coercion?_eq, hscalar, hresolve, henum]
    rfl
  have hproperties : (palette.binding g {}).properties =
      g.boundProperties ["App.Palette"] palette := rfl
  have hsettable : palette.settableProperties =
      [{ name := "Shade", type := .ofEnum "Shared.Color" }] := by
    decide
  have hunwrapped : (TypeRef.ofEnum "Shared.Color").unwrapped =
      (.ofEnum "Shared.Color", false) := rfl
  rw [hproperties, Graph.boundProperties, hsettable, List.filterMap_cons, List.filterMap_nil,
    hunwrapped, hcoercion]
  rfl

/-- The palette is the only binding of the shop. -/
theorem Survey.mem_bindings_paintShop (paints : List (String × List String)) {b : Binding}
    (hscanned : (Graph.paintShop paints).scannedTypes = [.palette]) :
    b ∈ (mk (.paintShop paints) {}).plan.bindings ↔
      b = Declaration.palette.binding (.paintShop paints) {} := by
  have hplays : (mk (.paintShop paints) {}).plays .palette .configuration = true := rfl
  have hfound : ∀ b, b ∈ (mk (.paintShop paints) {}).allFindings.bindings ↔
      b = Declaration.palette.binding (.paintShop paints) {} := by
    intro b
    rw [mem_bindings_iff, hscanned]
    simp only [List.mem_singleton, exists_eq_left, hplays, true_and]
    exact List.mem_singleton
  rw [mem_plan_bindings_iff, hfound]
  refine ⟨And.left, ?_⟩
  rintro rfl
  refine ⟨rfl, ⟨_, (hfound _).mpr rfl, rfl⟩, ?_⟩
  rintro source ⟨other, hother, rfl, -⟩
  rw [(hfound other).mp hother]

/-- If the paints come in different colors, the first module that is listed decides which of them
    the section may name. -/
theorem paintShop_depends_on_module_order :
    (Graph.paintShop [("Oils", ["Red"]), ("Pastels", ["Green"])]).validate = .ok () ∧
      (Graph.paintShop [("Oils", ["Red"]), ("Pastels", ["Green"])]).Reorders
        (.paintShop [("Pastels", ["Green"]), ("Oils", ["Red"])]) ∧
      ∃ p p', (Graph.paintShop [("Oils", ["Red"]), ("Pastels", ["Green"])]).plan {} = .ok p ∧
        (Graph.paintShop [("Pastels", ["Green"]), ("Oils", ["Red"])]).plan {} = .ok p' ∧
        p ≠ p' := by
  refine ⟨by decide, Graph.paintShop_reorders (.swap ..), _, _, Graph.plan_eq_ok (by decide) {},
    Graph.plan_eq_ok (by decide) {}, fun hsame => ?_⟩
  -- The one binding of the first plan would be that of the second
  have hmem := (Survey.mem_bindings_paintShop [("Oils", ["Red"]), ("Pastels", ["Green"])]
    (by decide)).mpr rfl
  rw [hsame] at hmem
  have hbinding := (Survey.mem_bindings_paintShop [("Pastels", ["Green"]), ("Oils", ["Red"])]
    (by decide)).mp hmem
  have hproperties := congrArg Binding.properties hbinding
  rw [Declaration.properties_binding_palette (.ofEnum "Oils" "Shared.Color" ["Red"]) (by decide),
    Declaration.properties_binding_palette (.ofEnum "Pastels" "Shared.Color" ["Green"])
      (by decide)] at hproperties
  simp [Declaration.ofEnum] at hproperties

end Wiring
