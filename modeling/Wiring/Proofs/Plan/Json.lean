/-
  Wiring.Proofs.Plan.Json

  Reading back the entries of a plan. A service may stand among fields of others: it is read from
  its own.
-/

import Wiring.Plan.Json
import Wiring.Proofs.Construction.Json
import Wiring.Proofs.Declaration.Json

namespace Wiring

open Json (names_append names_fieldOf names_fieldOfList)
open Json.Read (GivesBack givesBack_text givesBack_texts givesBack_bool givesBack_int32
  givesBack_size givesBack_list givesBack_record givesBack_record_among)

/-- The position of a decorator and the place of its constructor are numbers of 64 bits. -/
structure Layer.CountsFit (l : Layer) : Prop where
  position : l.position < UInt64.size
  index : l.construction.index < UInt64.size

theorem BindingMode.undoes_read (scope : Json.Scope) (levels : Nat) :
    Json.Read.Undoes (read scope) toJson levels :=
  Json.Read.undoes_choice fun mode => by cases mode <;> rfl

variable {f : Json → Json} (hf : Json.Arranges f)
include hf

/-! ## Services and plugins -/

/-- A service is read from its fields, whatever fields with other names stand beside them. -/
theorem Service.givesBack_read_among (scope : Json.Scope) {s : Service}
    (hindex : s.construction.index < UInt64.size) {others : List (String × Json)}
    {names : List String} (hothers : (others.map Prod.fst).Sublist names)
    (hnodup : (["name", "module", "constructor", "lifetime", "interfaces", "keys", "location"] ++
      names).Nodup) :
    GivesBack f (read scope) scope.levels (.object (s.jsonFields ++ others)) s := by
  have hnames : ((s.jsonFields ++ others).map Prod.fst).Sublist
      (["name", "module", "constructor", "lifetime", "interfaces", "keys", "location"] ++ names) :=
    names_append (names_append (names_append (.refl _) (names_fieldOfList ..)) (names_fieldOf ..))
      hothers
  have hown : ∀ name ∈ ["name", "module", "constructor", "lifetime", "interfaces", "keys",
      "location"], others.lookup name = none := by
    intro name hname
    rw [List.lookup_eq_none_iff]
    intro field hfield
    have hother : field.1 ∈ names := hothers.subset (List.mem_map_of_mem hfield)
    rw [bne_iff_ne]
    rintro rfl
    exact List.disjoint_of_nodup_append hnodup hname hother
  refine givesBack_record_among hf _ hnames hnodup fun r hr => ?_
  have hname : r.required "name" Json.Read.text = .done s.name :=
    hr.required (givesBack_text hf _) rfl
  have hmodule : r.required "module" Json.Read.text = .done s.moduleName :=
    hr.required (givesBack_text hf _) rfl
  have hconstruction : r.required "constructor" (Construction.read scope.inner) =
      .done s.construction :=
    hr.required (Construction.givesBack_read hf _ hindex) rfl
  have hlifetime : r.required "lifetime" (Lifetime.read scope.inner) = .done s.lifetime :=
    hr.required ((Lifetime.undoes_read _ _).givesBack (hf.text _)) rfl
  have hinterfaces : r.required "interfaces"
      (Json.Read.list scope.inner (TypeRef.read scope.inner.inner)) = .done s.interfaces :=
    hr.required (TypeRef.givesBack_readAll hf _ _) rfl
  have hkeys : r.optional "keys" [] (Json.Read.list scope.inner Json.Read.text) = .done s.keys :=
    hr.optional_list (givesBack_texts hf _)
      (by simp [jsonFields, List.lookup_append, hown])
  have hlocation : r.optional "location" none
      (Json.Read.orNull (SourceLocation.read scope.inner)) = .done s.location :=
    SourceLocation.optional_of_carries hf hr (by simp [jsonFields, List.lookup_append, hown])
  rw [hname, hmodule, hconstruction, hlifetime, hinterfaces, hkeys, hlocation]
  rfl

theorem Plugin.givesBack_read (scope : Json.Scope) (p : Plugin) :
    GivesBack f (read scope) scope.levels p.toJson p := by
  refine givesBack_record hf (names_append (names_append (.refl _) (names_fieldOf ..))
    (names_fieldOf ..)) (by decide) fun r hr => ?_
  have hname : r.required "name" Json.Read.text = .done p.name :=
    hr.required (givesBack_text hf _) rfl
  have hmodule : r.required "module" Json.Read.text = .done p.moduleName :=
    hr.required (givesBack_text hf _) rfl
  have hinterfaces : r.required "interfaces"
      (Json.Read.list scope.inner (TypeRef.read scope.inner.inner)) = .done p.interfaces :=
    hr.required (TypeRef.givesBack_readAll hf _ _) rfl
  have hmarkers : r.required "markers" (Json.Read.list scope.inner Json.Read.text) =
      .done p.markers :=
    hr.required (givesBack_texts hf _) rfl
  have horder : r.optional "order" none (Json.Read.orNull Json.Read.int32) = .done p.order :=
    hr.optional_orNull hf (fun n _ => givesBack_int32 hf n) nofun (by simp [List.lookup_append])
  have hlocation : r.optional "location" none
      (Json.Read.orNull (SourceLocation.read scope.inner)) = .done p.location :=
    SourceLocation.optional_of_carries hf hr (by simp [List.lookup_append])
  rw [hname, hmodule, hinterfaces, hmarkers, horder, hlocation]
  rfl

/-! ## Factories and proxies -/

theorem Factory.givesBack_read (scope : Json.Scope) {x : Factory}
    (hindex : x.construction.index < UInt64.size) :
    GivesBack f (read scope) scope.levels x.toJson x := by
  refine givesBack_record hf (names_append (.refl _) (names_fieldOf ..)) (by decide)
    fun r hr => ?_
  have hproduct : r.required "product" Json.Read.text = .done x.product :=
    hr.required (givesBack_text hf _) rfl
  have hmodule : r.required "module" Json.Read.text = .done x.moduleName :=
    hr.required (givesBack_text hf _) rfl
  have hname : r.required "factory_name" Json.Read.text = .done x.name :=
    hr.required (givesBack_text hf _) rfl
  have hlifetime : r.required "lifetime" (Lifetime.read scope.inner) = .done x.lifetime :=
    hr.required ((Lifetime.undoes_read _ _).givesBack (hf.text _)) rfl
  have hconstruction : r.required "constructor" (Construction.read scope.inner) =
      .done x.construction :=
    hr.required (Construction.givesBack_read hf _ hindex) rfl
  have hinterfaces : r.required "interfaces"
      (Json.Read.list scope.inner (TypeRef.read scope.inner.inner)) = .done x.interfaces :=
    hr.required (TypeRef.givesBack_readAll hf _ _) rfl
  have hlocation : r.optional "location" none
      (Json.Read.orNull (SourceLocation.read scope.inner)) = .done x.location :=
    SourceLocation.optional_of_carries hf hr (by simp)
  rw [hproduct, hmodule, hname, hlifetime, hconstruction, hinterfaces, hlocation]
  rfl

theorem InterceptorUse.givesBack_read (scope : Json.Scope) (i : InterceptorUse) :
    GivesBack f (read scope) scope.levels i.toJson i := by
  refine givesBack_record hf (.refl _) (by decide) fun r hr => ?_
  have hinterceptor : r.required "interceptor" (TypeRef.read scope.inner) = .done i.interceptor :=
    hr.required (TypeRef.givesBack_read hf _ _) rfl
  have horder : r.required "order" Json.Read.int32 = .done i.order :=
    hr.required (givesBack_int32 hf _) rfl
  rw [hinterceptor, horder]
  rfl

theorem ProxiedMethod.givesBack_read (scope : Json.Scope) (m : ProxiedMethod) :
    GivesBack f (read scope) scope.levels m.toJson m := by
  refine givesBack_record hf (.refl _) (by decide) fun r hr => ?_
  have hname : r.required "name" Json.Read.text = .done m.name :=
    hr.required (givesBack_text hf _) rfl
  have hinterceptors : r.required "interceptors"
      (Json.Read.list scope.inner (InterceptorUse.read scope.inner.inner)) =
        .done m.interceptors :=
    hr.required (givesBack_list hf fun i _ => InterceptorUse.givesBack_read hf _ i) rfl
  rw [hname, hinterceptors]
  rfl

theorem Proxy.givesBack_read (scope : Json.Scope) (p : Proxy) :
    GivesBack f (read scope) scope.levels p.toJson p := by
  refine givesBack_record hf (names_append (.refl _) (names_fieldOf ..)) (by decide)
    fun r hr => ?_
  have hservice : r.required "service" Json.Read.text = .done p.service :=
    hr.required (givesBack_text hf _) rfl
  have hmodule : r.required "module" Json.Read.text = .done p.moduleName :=
    hr.required (givesBack_text hf _) rfl
  have hname : r.required "proxy_name" Json.Read.text = .done p.name :=
    hr.required (givesBack_text hf _) rfl
  have hinterfaces : r.required "interfaces"
      (Json.Read.list scope.inner (TypeRef.read scope.inner.inner)) = .done p.interfaces :=
    hr.required (TypeRef.givesBack_readAll hf _ _) rfl
  have hmethods : r.required "methods"
      (Json.Read.list scope.inner (ProxiedMethod.read scope.inner.inner)) = .done p.methods :=
    hr.required (givesBack_list hf fun m _ => ProxiedMethod.givesBack_read hf _ m) rfl
  have hlocation : r.optional "location" none
      (Json.Read.orNull (SourceLocation.read scope.inner)) = .done p.location :=
    SourceLocation.optional_of_carries hf hr (by simp)
  rw [hservice, hmodule, hname, hinterfaces, hmethods, hlocation]
  rfl

/-! ## Chains -/

theorem Layer.givesBack_read (scope : Json.Scope) {l : Layer} (hfits : l.CountsFit) :
    GivesBack f (read scope) scope.levels l.toJson l := by
  refine givesBack_record hf (.refl _) (by decide) fun r hr => ?_
  have hdecorator : r.required "decorator" (TypeRef.read scope.inner) = .done l.decorator :=
    hr.required (TypeRef.givesBack_read hf _ _) rfl
  have horder : r.required "order" Json.Read.int32 = .done l.order :=
    hr.required (givesBack_int32 hf _) rfl
  have hplace : r.required "position" Json.Read.size = .done l.position :=
    hr.required (givesBack_size hf hfits.position) rfl
  have hconstruction : r.required "constructor" (Construction.read scope.inner) =
      .done l.construction :=
    hr.required (Construction.givesBack_read hf _ hfits.index) rfl
  have hsynthesized : r.required "synthesized" Json.Read.bool = .done l.synthesized :=
    hr.required (givesBack_bool hf _) rfl
  rw [hdecorator, horder, hplace, hconstruction, hsynthesized]
  rfl

theorem Chain.givesBack_read (scope : Json.Scope) {c : Chain}
    (hlayers : ∀ l ∈ c.layers, l.CountsFit) :
    GivesBack f (read scope) scope.levels c.toJson c := by
  refine givesBack_record hf (.refl _) (by decide) fun r hr => ?_
  have htarget : r.required "target" (TypeRef.read scope.inner) = .done c.target :=
    hr.required (TypeRef.givesBack_read hf _ _) rfl
  have himplementations : r.required "implementations"
      (Json.Read.list scope.inner Json.Read.text) = .done c.implementations :=
    hr.required (givesBack_texts hf _) rfl
  have hlinks : r.required "links"
      (Json.Read.list scope.inner (Layer.read scope.inner.inner)) = .done c.layers :=
    hr.required (givesBack_list hf fun l hl => Layer.givesBack_read hf _ (hlayers l hl)) rfl
  rw [htarget, himplementations, hlinks]
  rfl

end Wiring
