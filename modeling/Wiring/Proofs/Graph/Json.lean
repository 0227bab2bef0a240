/-
  Wiring.Proofs.Graph.Json

  Reading back a graph. The text of a graph is read as the graph itself, provided that it passes the
  check and that no more containers enclose one another than a text may have.
-/

import Wiring.Graph.Json
import Wiring.Proofs.Declaration.Json
import Wiring.Proofs.Json.Draft

namespace Wiring

open Json.Read (Undoes record_draft undoes_text undoes_bool undoes_list)

theorem CodeModule.undoes_read (scope : Json.Scope) :
    Undoes (read scope) toJson scope.levels := by
  intro m hdepth
  refine record_draft hdepth (.refl _) (by decide) fun r hr => ?_
  have hname : r.required "name" Json.Read.text = .done m.name := hr.required undoes_text rfl
  have hparticipates : r.optional "participates" false Json.Read.bool = .done m.participates :=
    hr.optional undoes_bool rfl
  have htypes : r.optional "types" []
      (Json.Read.list scope.inner (Declaration.read scope.inner.inner)) = .done m.types :=
    hr.optional (undoes_list (Declaration.undoes_read _)) rfl
  rw [hname, hparticipates, htypes]
  rfl

namespace Graph

theorem undoes_read (scope : Json.Scope) : Undoes (read scope) toJson scope.levels := by
  intro g hdepth
  refine record_draft hdepth (.refl _) (by decide) fun r hr => ?_
  have hcurrent : r.required "current_module" Json.Read.text = .done g.current :=
    hr.required undoes_text rfl
  have hmodules : r.required "modules"
      (Json.Read.list scope.inner (CodeModule.read scope.inner.inner)) = .done g.modules :=
    hr.required (undoes_list (CodeModule.undoes_read _)) rfl
  rw [hcurrent, hmodules]
  rfl

/-- Reading the text of a graph gives back the graph. -/
theorem ofText_toText (g : Graph) (hvalid : g.validate = .ok ())
    (hdepth : g.toJson.depth ≤ Json.nestingLimit) : Graph.ofText g.toText = .ok g := by
  have hread : Json.Read.ofText (read {}) g.toText = .ok g := by
    rw [Json.Read.ofText, toText, Json.Draft.ofText_pretty]
    simp only [undoes_read {} g hdepth]
    rfl
  -- What is read is the graph itself, so the check passes once more
  rw [ofText, hread]
  change (g.validate >>= fun _ => Except.ok g) = Except.ok g
  rw [hvalid]
  rfl

/-! ## A library -/

/-- A graph with a quoted text, a nested reference, both signs of a place and an omitted default. -/
def library : Graph where
  current := "Lib"
  modules := [{
    name := "Lib"
    participates := true
    types := [
      (((Declaration.ofClass "Lib" "Lib.Shelf").implementing
        ((TypeRef.ofInterface "Lib.IBag").withArg
          ((TypeRef.ofInterface "Lib.IBag").withArg (.orNull .string)))).withMarker
        (.keyed "a \"b\"\n\u0001 ü")).withMarker (.order (-7))] }]

/-- The text of the library is read as the library. -/
theorem library_ofText_toText :
    library.validate = .ok () ∧ library.toJson.depth ≤ Json.nestingLimit ∧
      Graph.ofText library.toText = .ok library := by
  have hvalid : library.validate = .ok () := by decide
  have hdepth : library.toJson.depth ≤ Json.nestingLimit := by decide
  exact ⟨hvalid, hdepth, ofText_toText library hvalid hdepth⟩

end Graph
end Wiring
