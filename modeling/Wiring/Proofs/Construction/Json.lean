/-
  Wiring.Proofs.Construction.Json

  Reading back a construction. An argument is written as a variant that is named for its source; the
  place of a constructor is read as a number of 64 bits, and given back if it is one.
-/

import Wiring.Construction.Json
import Wiring.Proofs.TypeRef.Json

namespace Wiring

open Json.Read (GivesBack givesBack_text givesBack_size givesBack_list givesBack_record
  givesBack_variant givesBack_fields)

variable {f : Json → Json} (hf : Json.Arranges f)
include hf

namespace Argument

theorem givesBack_readFrom (scope : Json.Scope) (variant name : String) (type : TypeRef)
    (source : ArgumentSource) :
    GivesBack f (readFrom scope variant source) scope.levels
      (.object [("name", .text name), ("ty", type.toJson)]) ⟨name, type, source⟩ := by
  refine givesBack_record hf (.refl _) (by decide) fun r hr => ?_
  have hname : r.required "name" Json.Read.text = .done name :=
    hr.required (givesBack_text hf _) rfl
  have htype : r.required "ty" (TypeRef.read scope.inner) = .done type :=
    hr.required (TypeRef.givesBack_read hf _ _) rfl
  rw [hname, htype]
  rfl

theorem givesBack_readKeyed (scope : Json.Scope) (name : String) (type : TypeRef) (key : String) :
    GivesBack f (readKeyed scope) scope.levels
      (.object [("name", .text name), ("ty", type.toJson), ("key", .text key)])
      ⟨name, type, .keyed key⟩ := by
  refine givesBack_record hf (.refl _) (by decide) fun r hr => ?_
  have hname : r.required "name" Json.Read.text = .done name :=
    hr.required (givesBack_text hf _) rfl
  have htype : r.required "ty" (TypeRef.read scope.inner) = .done type :=
    hr.required (TypeRef.givesBack_read hf _ _) rfl
  have hkey : r.required "key" Json.Read.text = .done key :=
    hr.required (givesBack_text hf _) rfl
  rw [hname, htype, hkey]
  rfl

theorem givesBack_read (scope : Json.Scope) (a : Argument) :
    GivesBack f (read scope) scope.levels a.toJson a := by
  obtain ⟨name, type, source⟩ := a
  cases source with
  | service =>
      exact givesBack_variant hf rfl
        (givesBack_fields hf (givesBack_readFrom hf scope.inner "Service" name type .service))
  | keyed key =>
      exact givesBack_variant hf rfl
        (givesBack_fields hf (givesBack_readKeyed hf scope.inner name type key))
  | caller =>
      exact givesBack_variant hf rfl
        (givesBack_fields hf (givesBack_readFrom hf scope.inner "Runtime" name type .caller))
  | inner =>
      exact givesBack_variant hf rfl
        (givesBack_fields hf (givesBack_readFrom hf scope.inner "Inner" name type .inner))

end Argument

theorem Construction.givesBack_read (scope : Json.Scope) {c : Construction}
    (hindex : c.index < UInt64.size) : GivesBack f (read scope) scope.levels c.toJson c := by
  refine givesBack_record hf (.refl _) (by decide) fun r hr => ?_
  have hplace : r.required "index" Json.Read.size = .done c.index :=
    hr.required (givesBack_size hf hindex) rfl
  have harguments : r.required "arguments"
      (Json.Read.list scope.inner (Argument.read scope.inner.inner)) = .done c.arguments :=
    hr.required (givesBack_list hf fun a _ => Argument.givesBack_read hf _ a) rfl
  rw [hplace, harguments]
  rfl

end Wiring
