/-
  Wiring.Proofs.Survey.SameTypes

  What of a survey depends on where the declarations are listed. The roles of a declaration and what
  it contributes in them read the graph as a set of declarations, for the plugin contracts, and the
  name of the current module; only a binding looks names up.
-/

import Wiring.Proofs.Graph.SameTypes
import Wiring.Proofs.Survey.Findings

namespace Wiring.Survey

variable {g g' : Graph} (h : g.DeclaresSame g') (o : Options)
include h

/-! ## Roles -/

theorem isPluginInterface_eq_of_declaresSame :
    (mk g o).isPluginInterface = (mk g' o).isPluginInterface := by
  funext ref
  unfold isPluginInterface
  rw [h.pluginContracts_eq]

theorem isPluginShaped_eq_of_declaresSame : (mk g o).isPluginShaped = (mk g' o).isPluginShaped := by
  funext d
  unfold isPluginShaped
  rw [isPluginInterface_eq_of_declaresSame h]

theorem isPluginCandidate_eq_of_declaresSame :
    (mk g o).isPluginCandidate = (mk g' o).isPluginCandidate := by
  funext d
  unfold isPluginCandidate
  rw [isPluginShaped_eq_of_declaresSame h]

theorem isInjectableCandidate_eq_of_declaresSame :
    (mk g o).isInjectableCandidate = (mk g' o).isInjectableCandidate := by
  funext d
  unfold isInjectableCandidate
  rw [isPluginShaped_eq_of_declaresSame h]

theorem reaches_eq_of_declaresSame : (mk g o).reaches = (mk g' o).reaches := by
  funext d
  unfold reaches
  rw [h.isCurrent_eq]

theorem plays_eq_of_declaresSame : (mk g o).plays = (mk g' o).plays := by
  funext d role
  have hadmits : (mk g o).admits d = (mk g' o).admits d := by
    unfold admits
    rw [reaches_eq_of_declaresSame h]
    rfl
  have hfits : (mk g o).fits d role = (mk g' o).fits d role := by
    cases role <;>
      simp only [fits, isInjectableCandidate_eq_of_declaresSame h,
        isPluginCandidate_eq_of_declaresSame h]
  rw [plays, plays, hadmits, hfits]

/-! ## Findings -/

theorem exposedInterfaces_eq_of_declaresSame :
    (mk g o).exposedInterfaces = (mk g' o).exposedInterfaces := by
  funext d
  unfold exposedInterfaces
  rw [isPluginInterface_eq_of_declaresSame h]
  rfl

/-- What a declaration contributes in a role is the same but for its bindings. -/
theorem contribution_eq_of_declaresSame (d : Declaration) (role : Role) :
    (mk g o).contribution d role =
      { (mk g' o).contribution d role with
        bindings := ((mk g o).contribution d role).bindings } := by
  cases role with
  | plugin =>
      simp only [contribution, pluginOf, pluginInterfaces, isPluginInterface_eq_of_declaresSame h]
  | _ => simp only [contribution, service?, exposedInterfaces_eq_of_declaresSame h]

/-- A part other than the bindings of what is found in a declaration is the same. -/
theorem findingsIn_part_eq_of_declaresSame {α : Type} (part : Findings → List α)
    (hbindings : ∀ f bindings, part { f with bindings } = part f) (d : Declaration) :
    ((mk g o).findingsIn d).flatMap part = ((mk g' o).findingsIn d).flatMap part := by
  have hlost : (mk g o).lostDecorators d = (mk g' o).lostDecorators d := by
    unfold lostDecorators admits
    rw [reaches_eq_of_declaresSame h]
    rfl
  have hroles : (mk g o).roles d = (mk g' o).roles d := by
    rw [roles, roles, plays_eq_of_declaresSame h]
  rw [findingsIn, findingsIn, List.flatMap_cons, List.flatMap_cons, List.flatMap_map,
    List.flatMap_map, hlost, hroles]
  congr 2
  funext role
  rw [contribution_eq_of_declaresSame h o d role, hbindings]

/-! ## Checks -/

/-- The same candidates cannot be reached if the same declarations are scanned. -/
theorem mem_inaccessibleCandidates_iff_of_declaresSame
    (hscanned : ∀ d, d ∈ g.scannedTypes ↔ d ∈ g'.scannedTypes) (diagnostic : Diagnostic) :
    diagnostic ∈ (mk g o).inaccessibleCandidates ↔
      diagnostic ∈ (mk g' o).inaccessibleCandidates := by
  have hscanned' : ∀ d, d ∈ g.scanned.flatMap (·.types) ↔ d ∈ g'.scanned.flatMap (·.types) :=
    hscanned
  simp only [inaccessibleCandidates, isCandidate, isInjectableCandidate_eq_of_declaresSame h,
    isPluginCandidate_eq_of_declaresSame h, reaches_eq_of_declaresSame h, List.mem_map,
    List.mem_filter, hscanned']
  rfl

end Wiring.Survey
