/-
  Wiring.Proofs.Configuration.Json

  Reading back a binding. Coercions and properties contain one another: a property that is a class
  takes four levels of containers, so the reader goes down four levels at a time.
-/

import Wiring.Configuration.Json
import Wiring.Proofs.Declaration.Json

namespace Wiring

open Json (names_append names_fieldOf names_fieldOfList)
open Json.Read (GivesBack givesBack_text givesBack_texts givesBack_bool givesBack_list
  givesBack_record givesBack_variant givesBack_fields givesBack_single givesBack_of_no_level)

theorem BoundProperty.toJsonAll_eq_map (properties : List BoundProperty) :
    toJsonAll properties = properties.map toJson := by
  induction properties with
  | nil => rw [toJsonAll, List.map_nil]
  | cons property rest ih => rw [toJsonAll, List.map_cons, ih]

variable {f : Json → Json} (hf : Json.Arranges f)
include hf

/-! ## Coercions and properties -/

section Properties

variable {scope : Json.Scope} {readAll : Json.Reader (List BoundProperty)}

theorem Coercion.givesBack_readEnum (type : String) (members : List String) :
    GivesBack f (readEnum scope) scope.levels
      (.object [("type_name", .text type), ("members", .texts members)]) (.enum type members) := by
  refine givesBack_record hf (.refl _) (by decide) fun r hr => ?_
  have htype : r.required "type_name" Json.Read.text = .done type :=
    hr.required (givesBack_text hf _) rfl
  have hmembers : r.required "members" (Json.Read.list scope.inner Json.Read.text) =
      .done members :=
    hr.required (givesBack_texts hf _) rfl
  rw [htype, hmembers]
  rfl

theorem Coercion.givesBack_readNested (type : String) {properties : List BoundProperty}
    (hall : GivesBack f readAll scope.inner.levels (.array (properties.map BoundProperty.toJson))
      properties) :
    GivesBack f (readNested scope readAll) scope.levels
      (.object [("type_name", .text type),
        ("properties", .array (properties.map BoundProperty.toJson))])
      (.nested type properties) := by
  refine givesBack_record hf (.refl _) (by decide) fun r hr => ?_
  have htype : r.required "type_name" Json.Read.text = .done type :=
    hr.required (givesBack_text hf _) rfl
  have hproperties : r.required "properties" readAll = .done properties := hr.required hall rfl
  rw [htype, hproperties]
  rfl

/-- A coercion is given back if the properties of a class are. -/
theorem Coercion.givesBack_readWith
    (hall : ∀ properties : List BoundProperty, GivesBack f readAll scope.inner.inner.levels
      (.array (properties.map BoundProperty.toJson)) properties) (c : Coercion) :
    GivesBack f (readWith scope readAll) scope.levels c.toJson c := by
  cases c with
  | passthrough | boolean | guid =>
      rw [Coercion.toJson, GivesBack, hf.text]
      exact fun _ => rfl
  | numeric type =>
      exact givesBack_variant hf rfl (givesBack_single Coercion.numeric (givesBack_text hf type))
  | temporal type =>
      exact givesBack_variant hf rfl (givesBack_single Coercion.temporal (givesBack_text hf type))
  | enum type members =>
      exact givesBack_variant hf rfl (givesBack_fields hf (givesBack_readEnum hf type members))
  | nested type properties =>
      rw [Coercion.toJson, BoundProperty.toJsonAll_eq_map]
      exact givesBack_variant hf rfl
        (givesBack_fields hf (givesBack_readNested hf type (hall properties)))

/-- A property is given back if the properties of a class inside of it are. -/
theorem BoundProperty.givesBack_readWith
    (hall : ∀ properties : List BoundProperty, GivesBack f readAll scope.inner.inner.inner.levels
      (.array (properties.map toJson)) properties) (p : BoundProperty) :
    GivesBack f (readWith scope readAll) scope.levels p.toJson p := by
  obtain ⟨name, type, nullable, initOnly, coercion⟩ := p
  rw [toJson]
  refine givesBack_record hf (.refl _) (by decide) fun r hr => ?_
  have hname : r.required "name" Json.Read.text = .done name :=
    hr.required (givesBack_text hf _) rfl
  have htype : r.required "ty" (TypeRef.read scope.inner) = .done type :=
    hr.required (TypeRef.givesBack_read hf _ _) rfl
  have hnullable : r.required "nullable" Json.Read.bool = .done nullable :=
    hr.required (givesBack_bool hf _) rfl
  have hinitOnly : r.required "init_only" Json.Read.bool = .done initOnly :=
    hr.required (givesBack_bool hf _) rfl
  have hcoercion : r.required "coercion" (Coercion.readWith scope.inner readAll) =
      .done coercion :=
    hr.required (Coercion.givesBack_readWith hf hall coercion) rfl
  rw [hname, htype, hnullable, hinitOnly, hcoercion]
  rfl

end Properties

/-- The reader of properties gives back every property that fits the levels that are left. -/
theorem BoundProperty.givesBack_readAt (atHand : Bool) : (levels : Nat) → (p : BoundProperty) →
    GivesBack f (readAt atHand levels) levels p.toJson p
  | levels + 4, p => by
      -- The property, the variant and its record have a level each, and so has the list
      have hall : ∀ properties : List BoundProperty,
          GivesBack f (Json.Read.list ⟨levels + 1, atHand⟩ (readAt atHand levels)) (levels + 1)
            (.array (properties.map toJson)) properties := fun properties =>
        givesBack_list hf fun property _ => givesBack_readAt atHand levels property
      exact givesBack_readWith hf hall p
  | 3, p | 2, p | 1, p | 0, p => givesBack_readWith hf (givesBack_of_no_level hf _) p

theorem BoundProperty.givesBack_read (scope : Json.Scope) (p : BoundProperty) :
    GivesBack f (read scope) scope.levels p.toJson p :=
  givesBack_readAt hf scope.atHand scope.levels p

/-! ## Bindings -/

theorem Validator.givesBack_read (scope : Json.Scope) (v : Validator) :
    GivesBack f (read scope) scope.levels v.toJson v := by
  cases v with
  | external type =>
      exact givesBack_variant hf rfl
        (givesBack_single Validator.external (TypeRef.givesBack_read hf scope.inner type))
  | method name =>
      exact givesBack_variant hf rfl (givesBack_single Validator.method (givesBack_text hf name))

omit hf in
theorem Validator.toJson_ne_null (v : Validator) : v.toJson ≠ .null := by
  cases v <;> nofun

theorem Binding.givesBack_read (scope : Json.Scope) (b : Binding) :
    GivesBack f (read scope) scope.levels b.toJson b := by
  refine givesBack_record hf (names_append (names_append (.refl _) (names_fieldOfList ..))
    (names_fieldOf ..)) (by decide) fun r hr => ?_
  have htype : r.required "bound_type" Json.Read.text = .done b.boundType :=
    hr.required (givesBack_text hf _) rfl
  have hmodule : r.required "module" Json.Read.text = .done b.moduleName :=
    hr.required (givesBack_text hf _) rfl
  have hsection : r.required "section" Json.Read.text = .done b.path :=
    hr.required (givesBack_text hf _) rfl
  have hinstance : r.nullable "instance_name" Json.Read.text = .done b.instanceName :=
    hr.nullable hf (fun name _ => givesBack_text hf name) nofun rfl
  have hvalidate : r.required "validate_on_start" Json.Read.bool = .done b.validateOnStart :=
    hr.required (givesBack_bool hf _) rfl
  have hvalidator : r.nullable "validator" (Validator.read scope.inner) = .done b.validator :=
    hr.nullable hf (fun v _ => Validator.givesBack_read hf _ v) Validator.toJson_ne_null rfl
  have hproperties : r.required "properties"
      (Json.Read.list scope.inner (BoundProperty.read scope.inner.inner)) = .done b.properties :=
    hr.required (givesBack_list hf fun p _ => BoundProperty.givesBack_read hf _ p) rfl
  have hconstructor : r.required "needs_generated_constructor" Json.Read.bool =
      .done b.needsConstructor :=
    hr.required (givesBack_bool hf _) rfl
  have htypes : r.optional "property_types" [] (Json.Read.list scope.inner Json.Read.text) =
      .done b.propertyTypes :=
    hr.optional_list (givesBack_texts hf _) (by simp [List.lookup_append])
  have hlocation : r.optional "location" none
      (Json.Read.orNull (SourceLocation.read scope.inner)) = .done b.location :=
    SourceLocation.optional_of_carries hf hr (by simp [List.lookup_append])
  rw [htype, hmodule, hsection, hinstance, hvalidate, hvalidator, hproperties, hconstructor,
    htypes, hlocation]
  rfl

end Wiring
