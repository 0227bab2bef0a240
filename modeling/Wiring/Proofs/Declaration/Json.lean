/-
  Wiring.Proofs.Declaration.Json

  Reading back a declaration with its members and its markers. Each record is read field by field:
  what is always written is found as it was written, and what is left out is left out only where
  the reader takes the same value without it.
-/

import Wiring.Declaration.Json
import Wiring.Proofs.TypeRef.Json

namespace Wiring

open Json (names_append names_fieldOf names_fieldOfList)
open Json.Read (GivesBack Undoes record_draft undoes_text undoes_bool undoes_int32 undoes_uint32
  undoes_list)

/-! ## Small types -/

theorem Accessibility.undoes_read (scope : Json.Scope) (levels : Nat) :
    Undoes (read scope) (fun a => .text a.name) levels :=
  Json.Read.undoes_choice fun a => by cases a <;> rfl

theorem DeclarationKind.undoes_read (scope : Json.Scope) (levels : Nat) :
    Undoes (read scope) (fun kind => .text kind.name) levels :=
  Json.Read.undoes_choice fun kind => by cases kind <;> rfl

theorem Setter.undoes_read (scope : Json.Scope) (levels : Nat) :
    Undoes (read scope) (fun setter => .text setter.name) levels :=
  Json.Read.undoes_choice fun setter => by cases setter <;> rfl

theorem Lifetime.undoes_read (scope : Json.Scope) (levels : Nat) :
    Undoes (read scope) toJson levels :=
  Json.Read.undoes_choice fun lifetime => by cases lifetime <;> rfl

/-! ## Locations and members -/

theorem SourceLocation.givesBack_read {f : Json → Json} (hf : Json.Arranges f)
    (scope : Json.Scope) (l : SourceLocation) :
    GivesBack f (read scope) scope.levels l.toJson l := by
  refine Json.Read.givesBack_record hf (.refl _) (by decide) fun r hr => ?_
  have hfile : r.required "file" Json.Read.text = .done l.file :=
    hr.required (Json.Read.givesBack_text hf _) rfl
  have hline : r.required "line" Json.Read.uint32 = .done l.line :=
    hr.required (Json.Read.givesBack_uint32 hf _) rfl
  have hcolumn : r.required "column" Json.Read.uint32 = .done l.column :=
    hr.required (Json.Read.givesBack_uint32 hf _) rfl
  rw [hfile, hline, hcolumn]
  rfl

/-- A location that is left out where there is none is given back. -/
theorem SourceLocation.optional_of_carries {f : Json → Json} (hf : Json.Arranges f)
    {scope : Json.Scope} {r : Json.Read.Record} {fields : List (String × Json)}
    (hr : r.Carries f fields scope.levels) {l : Option SourceLocation}
    (hlookup : fields.lookup "location" = l.map toJson) :
    r.optional "location" none (Json.Read.orNull (read scope)) = .done l :=
  hr.optional_orNull hf (fun l _ => givesBack_read hf scope l) nofun hlookup

theorem SourceLocation.undoes_read (scope : Json.Scope) :
    Undoes (read scope) toJson scope.levels :=
  givesBack_read .id scope

theorem Parameter.undoes_read (scope : Json.Scope) :
    Undoes (read scope) toJson scope.levels := by
  intro p hdepth
  refine record_draft hdepth (names_append (.refl _) (names_fieldOf ..)) (by decide) fun r hr => ?_
  have hname : r.required "name" Json.Read.text = .done p.name := hr.required undoes_text rfl
  have htype : r.required "ty" (TypeRef.read scope.inner) = .done p.type :=
    hr.required (TypeRef.undoes_read _) rfl
  have hkey : r.optional "key" none (Json.Read.orNull Json.Read.text) = .done p.key :=
    hr.optional_orNull undoes_text nofun (by simp)
  rw [hname, htype, hkey]
  rfl

theorem Constructor.undoes_read (scope : Json.Scope) :
    Undoes (read scope) toJson scope.levels := by
  intro c hdepth
  refine record_draft hdepth (.refl _) (by decide) fun r hr => ?_
  have haccessibility : r.optional "accessibility" .anyone (Accessibility.read scope.inner) =
      .done c.accessibility :=
    hr.optional (Accessibility.undoes_read _ _) rfl
  have hparameters : r.optional "parameters" []
      (Json.Read.list scope.inner (Parameter.read scope.inner.inner)) = .done c.parameters :=
    hr.optional (undoes_list (Parameter.undoes_read _)) rfl
  rw [haccessibility, hparameters]
  rfl

theorem Property.undoes_read (scope : Json.Scope) :
    Undoes (read scope) toJson scope.levels := by
  intro p hdepth
  refine record_draft hdepth (.refl _) (by decide) fun r hr => ?_
  have hname : r.required "name" Json.Read.text = .done p.name := hr.required undoes_text rfl
  have htype : r.required "ty" (TypeRef.read scope.inner) = .done p.type :=
    hr.required (TypeRef.undoes_read _) rfl
  have hstatic : r.optional "is_static" false Json.Read.bool = .done p.isStatic :=
    hr.optional undoes_bool rfl
  have hindexer : r.optional "is_indexer" false Json.Read.bool = .done p.isIndexer :=
    hr.optional undoes_bool rfl
  have hsetter : r.optional "setter" .set (Setter.read scope.inner) = .done p.setter :=
    hr.optional (Setter.undoes_read _ _) rfl
  rw [hname, htype, hstatic, hindexer, hsetter]
  rfl

/-! ## Markers -/

theorem SectionRequest.undoes_read (scope : Json.Scope) :
    Undoes (read scope) toJson scope.levels := by
  intro s hdepth
  refine record_draft hdepth
    (names_append (names_append (names_append (names_append (names_fieldOf ..) (names_fieldOf ..))
      (.refl _)) (names_fieldOf ..)) (names_fieldOf ..)) (by decide) fun r hr => ?_
  have hpath : r.optional "section" none (Json.Read.orNull Json.Read.text) = .done s.path :=
    hr.optional_orNull undoes_text nofun (by simp [List.lookup_append])
  have hinstance : r.optional "name" none (Json.Read.orNull Json.Read.text) =
      .done s.instanceName :=
    hr.optional_orNull undoes_text nofun (by simp [List.lookup_append])
  have hvalidate : r.optional "validate_on_start" false Json.Read.bool =
      .done s.validateOnStart :=
    hr.optional undoes_bool (by simp [List.lookup_append])
  have hvalidator : r.optional "validator" none (Json.Read.orNull (TypeRef.read scope.inner)) =
      .done s.validator :=
    hr.optional_orNull (TypeRef.undoes_read _) TypeRef.toJson_ne_null
      (by simp [List.lookup_append])
  have hmethod : r.optional "validate_method" none (Json.Read.orNull Json.Read.text) =
      .done s.validateMethod :=
    hr.optional_orNull undoes_text nofun (by simp [List.lookup_append])
  rw [hpath, hinstance, hvalidate, hvalidator, hmethod]
  rfl

namespace Marker

/-- A reference with a place in an order is given back inside of what is built of it. -/
theorem readPlaced_draft {scope : Json.Scope} {field : String} {build : TypeRef → Int32 → Marker}
    (name : String) (hfield : field ≠ "order") (target : TypeRef) (place : Int32)
    (hdepth : (placedJson field target place).depth ≤ scope.levels) :
    readPlaced scope name field build (placedJson field target place).draft =
      .ok (build target place) := by
  have hother : ("order" == field) = false := beq_eq_false_iff_ne.mpr (Ne.symm hfield)
  refine record_draft hdepth (.refl _) (by simp [hfield]) fun r hr => ?_
  have htarget : r.required field (TypeRef.read scope.inner) = .done target :=
    hr.required (TypeRef.undoes_read _) List.lookup_cons_self
  have hplace : r.required "order" Json.Read.int32 = .done place :=
    hr.required undoes_int32 (by rw [List.lookup_cons, hother]; rfl)
  rw [htarget, hplace]
  rfl

/-- A marker with something behind its name is given back if that is. -/
theorem variants_draft {scope : Json.Scope} {name : String} {json : Json} {m : Marker}
    {payload : Json.Read.Payload Marker}
    (hdepth : (Json.object [(name, json)]).depth ≤ scope.levels)
    (hlookup : (variants scope.inner).lookup name = some payload)
    (hpayload : json.depth ≤ scope.inner.levels → payload.ofMember scope json.draft = .ok m) :
    read scope (Json.object [(name, json)]).draft = .ok m := by
  refine Json.Read.variant_object hdepth hlookup (hpayload ?_)
  rw [Json.depth, Json.depthOfFields, Json.depthOfFields] at hdepth
  rw [Json.Scope.levels_inner]
  omega

theorem undoes_read (scope : Json.Scope) : Undoes (read scope) toJson scope.levels := by
  intro m hdepth
  cases m with
  | exemptFromRegistration | exemptFromInjection | factorySource | pluginContract =>
      exact Json.Read.variant_text rfl
  | lifetime value =>
      exact variants_draft hdepth rfl fun hinner =>
        congrArg (Except.map lifetime) (Lifetime.undoes_read _ _ value hinner)
  | keyed key => exact variants_draft hdepth rfl fun _ => rfl
  | decoratorFor target place =>
      exact variants_draft hdepth rfl fun hinner =>
        readPlaced_draft "DecoratorFor" (by decide) target place hinner
  | openDecoratorFor target place =>
      exact variants_draft hdepth rfl fun hinner =>
        readPlaced_draft "OpenDecoratorFor" (by decide) target place hinner
  | configurationSection request =>
      exact variants_draft hdepth rfl fun hinner =>
        congrArg (Except.map configurationSection) (SectionRequest.undoes_read _ request hinner)
  | intercept interceptor place =>
      exact variants_draft hdepth rfl fun hinner =>
        readPlaced_draft "Intercept" (by decide) interceptor place hinner
  | order value =>
      exact variants_draft hdepth rfl fun hinner =>
        congrArg (Except.map order) (undoes_int32 value hinner)

end Marker

/-! ## Methods and declarations -/

theorem Method.undoes_read (scope : Json.Scope) :
    Undoes (read scope) toJson scope.levels := by
  intro m hdepth
  refine record_draft hdepth
    (names_append (names_append (.refl _) (names_fieldOf ..)) (.refl _)) (by decide) fun r hr => ?_
  have hname : r.required "name" Json.Read.text = .done m.name :=
    hr.required undoes_text (by simp)
  have haccessibility : r.optional "accessibility" .anyone (Accessibility.read scope.inner) =
      .done m.accessibility :=
    hr.optional (Accessibility.undoes_read _ _) (by simp)
  have hstatic : r.optional "is_static" false Json.Read.bool = .done m.isStatic :=
    hr.optional undoes_bool (by simp)
  have hreturn : r.optional "return_type" none (Json.Read.orNull (TypeRef.read scope.inner)) =
      .done m.returnType :=
    hr.optional_orNull (TypeRef.undoes_read _) TypeRef.toJson_ne_null
      (by simp [List.lookup_append])
  have hparameters : r.optional "parameters" []
      (Json.Read.list scope.inner (Parameter.read scope.inner.inner)) = .done m.parameters :=
    hr.optional (undoes_list (Parameter.undoes_read _))
      (by simp [List.lookup_append])
  have hmarkers : r.optional "markers" []
      (Json.Read.list scope.inner (Marker.read scope.inner.inner)) = .done m.markers :=
    hr.optional (undoes_list (Marker.undoes_read _))
      (by simp [List.lookup_append])
  rw [hname, haccessibility, hstatic, hreturn, hparameters, hmarkers]
  rfl

namespace Declaration

/-- The fields of a written declaration are known, and stand in the order in which they are. -/
theorem names_toJson (d : Declaration) {fields : List (String × Json)}
    (h : d.toJson = .object fields) : (fields.map Prod.fst).Sublist fieldNames := by
  have hnames : fieldNames = ["name", "module", "kind", "accessibility"] ++ ["containing"] ++
      ["is_abstract", "is_static", "is_extensible"] ++ ["type_parameters"] ++
      ["interfaces", "constructors"] ++ ["properties"] ++ ["methods"] ++ ["enum_members"] ++
      ["markers"] ++ ["location"] := rfl
  rw [hnames]
  obtain rfl := Json.object.inj h
  -- From the last field back to the first ones
  refine names_append ?_ (names_fieldOf ..)
  refine names_append ?_ (.refl _)
  refine names_append ?_ (names_fieldOfList ..)
  refine names_append ?_ (names_fieldOfList ..)
  refine names_append ?_ (names_fieldOfList ..)
  refine names_append ?_ (.refl _)
  refine names_append ?_ (names_fieldOfList ..)
  refine names_append ?_ (.refl _)
  exact names_append (.refl _) (names_fieldOfList ..)

theorem undoes_read (scope : Json.Scope) : Undoes (read scope) toJson scope.levels := by
  intro d hdepth
  refine record_draft hdepth (d.names_toJson rfl) (by decide) fun r hr => ?_
  have hname : r.required "name" Json.Read.text = .done d.name :=
    hr.required undoes_text (by simp)
  have hmodule : r.required "module" Json.Read.text = .done d.moduleName :=
    hr.required undoes_text (by simp)
  have hkind : r.optional "kind" .classType (DeclarationKind.read scope.inner) = .done d.kind :=
    hr.optional (DeclarationKind.undoes_read _ _) (by simp)
  have haccessibility : r.optional "accessibility" .anyone (Accessibility.read scope.inner) =
      .done d.accessibility :=
    hr.optional (Accessibility.undoes_read _ _) (by simp)
  have hcontaining : r.optional "containing" []
      (Json.Read.list scope.inner (Accessibility.read scope.inner.inner)) = .done d.containing :=
    hr.optional_list (undoes_list (Accessibility.undoes_read _ _))
      (by simp [List.lookup_append])
  have habstract : r.optional "is_abstract" false Json.Read.bool = .done d.isAbstract :=
    hr.optional undoes_bool (by simp [List.lookup_append])
  have hstatic : r.optional "is_static" false Json.Read.bool = .done d.isStatic :=
    hr.optional undoes_bool (by simp [List.lookup_append])
  have hextensible : r.optional "is_extensible" false Json.Read.bool = .done d.isExtensible :=
    hr.optional undoes_bool (by simp [List.lookup_append])
  have htypeParameters : r.optional "type_parameters" []
      (Json.Read.list scope.inner Json.Read.text) = .done d.typeParameters :=
    hr.optional_list (undoes_list undoes_text) (by simp [List.lookup_append])
  have hinterfaces : r.optional "interfaces" []
      (Json.Read.list scope.inner (TypeRef.read scope.inner.inner)) = .done d.interfaces :=
    hr.optional (undoes_list (TypeRef.undoes_read _))
      (by simp [List.lookup_append])
  have hconstructors : r.optional "constructors" []
      (Json.Read.list scope.inner (Constructor.read scope.inner.inner)) = .done d.constructors :=
    hr.optional (undoes_list (Constructor.undoes_read _))
      (by simp [List.lookup_append])
  have hproperties : r.optional "properties" []
      (Json.Read.list scope.inner (Property.read scope.inner.inner)) = .done d.properties :=
    hr.optional_list (undoes_list (Property.undoes_read _))
      (by simp [List.lookup_append])
  have hmethods : r.optional "methods" []
      (Json.Read.list scope.inner (Method.read scope.inner.inner)) = .done d.methods :=
    hr.optional_list (undoes_list (Method.undoes_read _))
      (by simp [List.lookup_append])
  have hmembers : r.optional "enum_members" []
      (Json.Read.list scope.inner Json.Read.text) = .done d.enumMembers :=
    hr.optional_list (undoes_list undoes_text) (by simp [List.lookup_append])
  have hmarkers : r.optional "markers" []
      (Json.Read.list scope.inner (Marker.read scope.inner.inner)) = .done d.markers :=
    hr.optional (undoes_list (Marker.undoes_read _))
      (by simp [List.lookup_append])
  have hlocation : r.optional "location" none
      (Json.Read.orNull (SourceLocation.read scope.inner)) = .done d.location :=
    hr.optional_orNull (SourceLocation.undoes_read _) nofun
      (by simp [List.lookup_append])
  rw [hname, hmodule, hkind, haccessibility, hcontaining, habstract, hstatic, hextensible,
    htypeParameters, hinterfaces, hconstructors, hproperties, hmethods, hmembers, hmarkers,
    hlocation]
  rfl

end Declaration
end Wiring
