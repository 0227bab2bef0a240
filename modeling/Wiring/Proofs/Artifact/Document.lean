/-
  Wiring.Proofs.Artifact.Document

  Reading back the documents of a plan. A document has the fields of every object in the order of
  their names, and its services have fields of their own beside those of the plan; both make no
  difference to a reader that goes by names. So the documents lose nothing of the plan.
-/

import Wiring.Generation
import Wiring.Proofs.Configuration.Json
import Wiring.Proofs.Json.Draft
import Wiring.Proofs.Plan.Json

namespace Wiring

open Json.Read (GivesBack givesBack_text givesBack_texts givesBack_list givesBack_record_among)

/-- The places of constructors and the positions of decorators are numbers of 64 bits. -/
structure Plan.CountsFit (p : Plan) : Prop where
  services : ∀ s ∈ p.services, s.construction.index < UInt64.size
  factories : ∀ x ∈ p.factories, x.construction.index < UInt64.size
  layers : ∀ c ∈ p.chains, ∀ l ∈ c.layers, l.CountsFit

namespace Artifact.Document

/-! ## Reading a document -/

section Reading

variable {α : Type}

/-- Reads one field of a document, and passes over the others. -/
def readField (name : String) (read : Json.Scope → Json.Reader α) (scope : Json.Scope) :
    Json.Reader α :=
  Json.Read.record scope "struct Document" [name] fun r => r.required name (read scope.inner)

/-- Reads a list of entries. -/
def readList (read : Json.Scope → Json.Reader α) (scope : Json.Scope) : Json.Reader (List α) :=
  Json.Read.list scope (read scope.inner)

/-- Reads one field of a document from its text, along with the text or from the value at hand. -/
def fieldOfText (atHand : Bool) (name : String) (read : Json.Scope → Json.Reader α)
    (text : String) : Except Json.Fault α :=
  Json.Read.ofText (readField name read { atHand }) text

variable {o : Options} {p : Plan} {kind : Kind} {name : String} {json : Json} {value : α}
  {read : Json.Scope → Json.Reader α}

/-- A document is an object with these fields, sorted. -/
def allFields (o : Options) (p : Plan) (kind : Kind) : List (String × Json) :=
  [("artifact", .text kind.name), ("module", .text p.current)] ++ fields o p kind

theorem nodup_names_allFields (o : Options) (p : Plan) (kind : Kind) :
    ((allFields o p kind).map Prod.fst).Nodup := by
  cases kind <;> simp [allFields, fields]

/-- A field of a document is given back if its value is. -/
theorem givesBack_readField {scope : Json.Scope}
    (hlookup : (allFields o p kind).lookup name = some json)
    (hread : GivesBack Json.sorted (read scope.inner) scope.inner.levels json value) :
    GivesBack Json.sorted (readField name read scope) scope.levels
      (.object (allFields o p kind)) value :=
  givesBack_record_among .sorted _ (.refl _) (nodup_names_allFields o p kind) fun _ hr =>
    hr.required hread hlookup

/-- From the text of a document that is not nested too deeply, a field is read as what was written
    there. -/
theorem fieldOfText_text (atHand : Bool) (hdepth : (of o p kind).depth ≤ Json.nestingLimit)
    (hlookup : (allFields o p kind).lookup name = some json)
    (hread : ∀ scope, GivesBack Json.sorted (read scope) scope.levels json value) :
    fieldOfText atHand name read (text o p kind) = .ok value := by
  have hback : readField name read { atHand } (of o p kind).draft = .ok value :=
    givesBack_readField hlookup (hread _) hdepth
  rw [fieldOfText, Json.Read.ofText, text,
    Json.Draft.ofText_eq_draft (Json.tokens_pretty_lineFeed _)]
  simp only [hback]
  rfl

/-- A list of entries is given back if every entry is. -/
theorem givesBack_readList {encode : α → Json} {values : List α}
    (hread : ∀ scope, ∀ value ∈ values,
      GivesBack Json.sorted (read scope) scope.levels (encode value) value) (scope : Json.Scope) :
    GivesBack Json.sorted (readList read scope) scope.levels (.array (values.map encode)) values :=
  givesBack_list .sorted fun value hvalue => hread scope.inner value hvalue

end Reading

/-- An entry of the services is read as the service, without its registration keys and its
    proxy. -/
theorem givesBack_service (p : Plan) {s : Service} (hindex : s.construction.index < UInt64.size)
    (scope : Json.Scope) :
    GivesBack Json.sorted (Service.read scope) scope.levels (service p s) s := by
  have hothers : ∀ keys proxy,
      (([("registration_keys", keys)] ++
        Json.fieldOf "proxy" (fun x : Proxy => .text x.name) proxy).map Prod.fst).Sublist
          (["registration_keys"] ++ ["proxy"]) := fun keys proxy =>
    Json.names_append (.refl _) (Json.names_fieldOf ..)
  rw [service, List.append_assoc]
  exact Service.givesBack_read_among .sorted scope hindex (hothers _ _) (by decide)

end Artifact.Document

open Artifact.Document

/-- From a text that is the artifact of a kind, each part of the plan that the kind is made of is
    read as it is; a report is made of no part. -/
def Plan.IsReadFrom (p : Plan) (atHand : Bool) (text : String) : Artifact.Kind → Prop
  | .services =>
    fieldOfText atHand "services" (readList Service.read) text = .ok p.services ∧
    fieldOfText atHand "factories" (readList Factory.read) text = .ok p.factories ∧
    fieldOfText atHand "intercepted" (readList Proxy.read) text = .ok p.proxies
  | .plugins => fieldOfText atHand "plugins" (readList Plugin.read) text = .ok p.plugins
  | .decorators => fieldOfText atHand "chains" (readList Chain.read) text = .ok p.chains
  | .configuration =>
    fieldOfText atHand "mode" BindingMode.read text = .ok p.mode ∧
    fieldOfText atHand "bindings" (readList Binding.read) text = .ok p.bindings
  | .bootstrap =>
    fieldOfText atHand "modules" (readList fun _ => Json.Read.text) text = .ok p.bootstrap
  | .report => True

/-- The documents lose nothing of the plan. -/
theorem plan_isReadFrom_documents (o : Options) (p : Plan) (atHand : Bool) (kind : Artifact.Kind)
    (hfits : p.CountsFit)
    (hdepth : (Artifact.Document.of o p kind).depth ≤ Json.nestingLimit) :
    p.IsReadFrom atHand (Renderer.json.artifact o p kind).contents kind := by
  cases kind with
  | services =>
      refine ⟨?_, ?_, ?_⟩
      · exact fieldOfText_text atHand hdepth rfl <| givesBack_readList fun scope s hs =>
          givesBack_service p (hfits.services s hs) scope
      · exact fieldOfText_text atHand hdepth rfl <| givesBack_readList fun scope x hx =>
          Factory.givesBack_read .sorted scope (hfits.factories x hx)
      · exact fieldOfText_text atHand hdepth rfl <| givesBack_readList fun scope x _ =>
          Proxy.givesBack_read .sorted scope x
  | plugins =>
      exact fieldOfText_text atHand hdepth rfl <| givesBack_readList fun scope x _ =>
        Plugin.givesBack_read .sorted scope x
  | decorators =>
      exact fieldOfText_text atHand hdepth rfl <| givesBack_readList fun scope c hc =>
        Chain.givesBack_read .sorted scope (hfits.layers c hc)
  | configuration =>
      refine ⟨?_, ?_⟩
      · exact fieldOfText_text atHand hdepth rfl fun scope =>
          (BindingMode.undoes_read scope _).givesBack (Json.Arranges.sorted.text _)
      · exact fieldOfText_text atHand hdepth rfl <| givesBack_readList fun scope b _ =>
          Binding.givesBack_read .sorted scope b
  | bootstrap =>
      exact fieldOfText_text atHand hdepth rfl <| givesBack_readList fun _ name _ =>
        givesBack_text .sorted name
  | report => trivial

/-! ## A clock in a tower -/

/-- The plan of a clock that is traced, and of the settings of a tower. -/
def Plan.clockTower : Plan where
  current := "App"
  services := [{
    name := "App.Clock"
    moduleName := "App"
    construction := ⟨0, [⟨"zone", .ofInterface "App.IZone", .keyed "local"⟩]⟩
    lifetime := .singleton
    interfaces := [.ofInterface "App.IClock"]
    keys := ["tower"] }]
  proxies := [{
    service := "App.Clock"
    moduleName := "App"
    name := "App.ClockProxy"
    interfaces := [.ofInterface "App.IClock"]
    methods := [⟨"Tick", [⟨.ofClass "App.Trace", -1⟩]⟩] }]
  bindings := [{
    boundType := "App.Tower"
    moduleName := "App"
    path := "Tower"
    instanceName := none
    validateOnStart := true
    validator := some (.method "Check")
    needsConstructor := false
    propertyTypes := ["App.Bell"]
    location := some ⟨"tower.rs", 3, 1⟩
    properties := [⟨"Bell", .ofClass "App.Bell", true, false,
      .nested "App.Bell" [⟨"Weight", .ofPrimitive "int", false, false, .numeric "int"⟩]⟩] }]
  mode := .generated

/-- The plan of the tower is read from its documents. -/
theorem clockTower_isReadFrom_documents :
    Plan.clockTower.CountsFit ∧
      (Artifact.Document.of {} .clockTower .services).depth ≤ Json.nestingLimit ∧
      (Artifact.Document.of {} .clockTower .configuration).depth ≤ Json.nestingLimit ∧
      Plan.clockTower.IsReadFrom false
        (Renderer.json.artifact {} .clockTower .services).contents .services ∧
      Plan.clockTower.IsReadFrom true
        (Renderer.json.artifact {} .clockTower .configuration).contents .configuration := by
  have hfits : Plan.clockTower.CountsFit := by
    refine ⟨fun s hs => ?_, nofun, nofun⟩
    rw [List.mem_singleton.mp hs]
    decide
  have hservices : (Artifact.Document.of {} .clockTower .services).depth ≤ Json.nestingLimit := by
    rw [Artifact.Document.of, Json.depth_sorted]
    decide
  have hconfiguration :
      (Artifact.Document.of {} .clockTower .configuration).depth ≤ Json.nestingLimit := by
    rw [Artifact.Document.of, Json.depth_sorted]
    decide
  exact ⟨hfits, hservices, hconfiguration,
    plan_isReadFrom_documents {} .clockTower false .services hfits hservices,
    plan_isReadFrom_documents {} .clockTower true .configuration hfits hconfiguration⟩

end Wiring
