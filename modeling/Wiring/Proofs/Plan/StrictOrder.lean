/-
  Wiring.Proofs.Plan.StrictOrder

  The lists of a plan are in their orders. The declarations of a well-formed graph stand at
  different places, and each of them is entered once at most, so the order of generation puts the
  entries into a strict order; chains have different texts for targets, and names of modules and
  diagnostics are listed once. Only bindings may tie, where a type asks twice for the same section.
  To put a plan in order again changes nothing.
-/

import Wiring.Proofs.Decoration.Applied
import Wiring.Proofs.Diagnostic.Order
import Wiring.Proofs.Plan.Order

namespace Wiring

open Std

/-! ## The order of generation, read off the names -/

namespace Placement

/-- What the current module declares comes first, then the other modules by name; the types of one
    module come by name. -/
def IsBefore (current : String) (a b : Placement) : Prop :=
  a.moduleName = current ∧ b.moduleName ≠ current ∨
  (a.moduleName = current ↔ b.moduleName = current) ∧ a.moduleName < b.moduleName ∨
  a.moduleName = b.moduleName ∧ a.typeName < b.typeName

variable {current : String} {a b : Placement}

theorem compare_rank_eq_lt_iff : compareOn (rank current) a b = .lt ↔
    a.moduleName = current ∧ b.moduleName ≠ current := by
  rw [compareOn, Nat.compare_eq_lt, rank, rank]
  split <;> split <;> simp [*]

theorem compare_rank_eq_eq_iff : compareOn (rank current) a b = .eq ↔
    (a.moduleName = current ↔ b.moduleName = current) := by
  rw [compareOn, Nat.compare_eq_eq, rank, rank]
  split <;> split <;> simp [*]

theorem order_eq_lt_iff : order current a b = .lt ↔ a.IsBefore current b := by
  have hmodule : compareOn Placement.moduleName a b = .lt ↔ a.moduleName < b.moduleName :=
    compareOfLessAndEq_eq_lt
  have htype : compareOn Placement.typeName a b = .lt ↔ a.typeName < b.typeName :=
    compareOfLessAndEq_eq_lt
  have hsame : compareOn Placement.moduleName a b = .eq ↔ a.moduleName = b.moduleName :=
    Std.compare_eq_iff_eq
  rw [order, compareLex, compareLex, Ordering.then_eq_lt, Ordering.then_eq_lt,
    compare_rank_eq_lt_iff, compare_rank_eq_eq_iff, hmodule, hsame, htype, IsBefore]
  -- Types of the same module are both in the current one or both outside of it
  grind

/-- The order of generation tells any two places apart, and never goes round in a circle. -/
instance (current : String) : IsStrictTotalOrder Placement (IsBefore current) :=
  List.isStrictTotalOrder_of_lt_iff (order current) fun _ _ => order_eq_lt_iff

/-- Elements at different places stand one before the other once they are put in order. -/
theorem pairwise_isBefore_sortBy {α : Type} {place : α → Placement} {xs : List α}
    (hnodup : (xs.map place).Nodup) :
    ((xs.sortBy (orderOn current place)).map place).Pairwise (IsBefore current) := by
  rw [List.pairwise_map]
  exact (List.pairwise_lt_sortBy (order current) hnodup).imp order_eq_lt_iff.mp

end Placement

/-! ## The order of bindings, read off their sections -/

namespace Binding

/-- Bindings come by the places of their types, those of one type by section, and those of one
    section by instance, the one without a name first. -/
def IsBefore (current : String) (a b : Binding) : Prop :=
  a.placement.IsBefore current b.placement ∨
  a.placement = b.placement ∧ a.path < b.path ∨
  a.placement = b.placement ∧ a.path = b.path ∧ a.instanceName < b.instanceName

/-- Two bindings fill the same instance of the same type from the same section. -/
def Ties (a b : Binding) : Prop :=
  a.placement = b.placement ∧ a.path = b.path ∧ a.instanceName = b.instanceName

variable {current : String} {a b : Binding}

theorem compare_instanceName_eq_lt_iff {name other : Option String} :
    compare name other = .lt ↔ name < other := by
  cases name <;> cases other
  case some.some => exact compareOfLessAndEq_eq_lt
  case none.some => exact iff_of_true rfl trivial
  all_goals exact iff_of_false nofun nofun

theorem order_eq_lt_iff : order current a b = .lt ↔ a.IsBefore current b := by
  have hplace : Placement.order current a.placement b.placement = .eq ↔
      a.placement = b.placement := LawfulEqCmp.compare_eq_iff_eq
  have hpath : compare a.path b.path = .lt ↔ a.path < b.path := compareOfLessAndEq_eq_lt
  simp only [order, compareLex, Placement.orderOn, compareOn, Ordering.then_eq_lt,
    Placement.order_eq_lt_iff, hplace, hpath, Std.compare_eq_iff_eq,
    compare_instanceName_eq_lt_iff, IsBefore, and_or_left]

theorem order_eq_eq_iff : order current a b = .eq ↔ a.Ties b := by
  have hplace : Placement.order current a.placement b.placement = .eq ↔
      a.placement = b.placement := LawfulEqCmp.compare_eq_iff_eq
  simp only [order, compareLex_eq_eq, Placement.orderOn, compareOn, hplace, Std.compare_eq_iff_eq,
    Ties]

/-- Sorted bindings stand one before the other, or tie. -/
theorem pairwise_isBefore_or_ties_sortBy (current : String) (bindings : List Binding) :
    (bindings.sortBy (order current)).Pairwise fun a b => a.IsBefore current b ∨ a.Ties b := by
  refine (List.pairwise_sortBy (order current) bindings).imp fun hle => ?_
  rwa [← order_eq_lt_iff, ← order_eq_eq_iff, ← Ordering.isLE_iff_eq_lt_or_eq_eq]

end Binding

/-! ## Plans -/

namespace Plan

/-- Every list of a plan is in its order, and but for bindings that tie strictly so. -/
structure IsInOrder (p : Plan) : Prop where
  total : IsStrictTotalOrder Placement (Placement.IsBefore p.current)
  services : (p.services.map Service.placement).Pairwise (Placement.IsBefore p.current)
  plugins : (p.plugins.map Plugin.placement).Pairwise (Placement.IsBefore p.current)
  factories : (p.factories.map Factory.placement).Pairwise (Placement.IsBefore p.current)
  proxies : (p.proxies.map Proxy.placement).Pairwise (Placement.IsBefore p.current)
  chains : (p.chains.map (·.target.text)).Pairwise (· < ·)
  bindings : p.bindings.Pairwise fun a b => a.IsBefore p.current b ∨ a.Ties b
  bootstrap : p.bootstrap.Pairwise (· < ·)
  diagnostics : p.diagnostics.Pairwise Diagnostic.IsBefore

/-- A plan is put in order once for all. -/
theorem inOrder_inOrder (p : Plan) : p.inOrder.inOrder = p.inOrder := by
  have htexts := List.transCmp_on compare fun c : Chain => c.target.text
  have hchains : (p.chains.sortBy (compareOn (·.target.text))).sortBy (compareOn (·.target.text)) =
      p.chains.sortBy (compareOn (·.target.text)) := List.sortBy_sortBy _ _
  unfold inOrder
  simp only [List.sortBy_sortBy, List.sortDistinct_sortDistinct, hchains]

end Plan

/-- The plan of a graph that passes the check is in order, and ordering it again changes nothing. -/
theorem plan_is_in_order (g : Graph) (o : Options) (hvalid : g.validate = .ok ()) :
    ∃ p, g.plan o = .ok p ∧ p.IsInOrder ∧ p.inOrder = p := by
  have hwf := Graph.validate_eq_ok_iff.mp hvalid
  let s : Survey := ⟨g, o⟩
  have htexts := List.transCmp_on compare fun c : Chain => c.target.text
  refine ⟨s.plan, Graph.plan_eq_ok hvalid o, ?_, Plan.inOrder_inOrder _⟩
  exact {
    total := inferInstance
    services := Placement.pairwise_isBefore_sortBy (Survey.nodup_services hwf)
    plugins := Placement.pairwise_isBefore_sortBy (Survey.nodup_plugins hwf)
    factories := Placement.pairwise_isBefore_sortBy (Survey.nodup_factories hwf)
    proxies := Placement.pairwise_isBefore_sortBy (Survey.nodup_proxies hwf)
    chains := by
      have hnodup := ((List.sortBy_perm _ _).map _).nodup_iff.mp s.nodup_texts_chains
      rw [List.pairwise_map]
      exact (List.pairwise_lt_sortBy compare hnodup).imp compareOfLessAndEq_eq_lt.mp
    bindings := Binding.pairwise_isBefore_or_ties_sortBy _ _
    bootstrap := (List.pairwise_sortDistinct compare _).imp compareOfLessAndEq_eq_lt.mp
    diagnostics :=
      (List.pairwise_sortDistinct Diagnostic.order _).imp Diagnostic.order_eq_lt_iff.mp }

/-! ## A parcel service -/

namespace Declaration

/-- A service behind an interface of which each call is traced. -/
def traced (moduleName name : String) : Declaration :=
  ((ofClass moduleName name).implementing (.ofInterface "Post.IStop")).withMethod
    { name := "Call" } |>.withMarker (.intercept (.ofClass "Post.Trace") 0)

/-- A plugin that scans parcels. -/
def scanner (moduleName name : String) : Declaration :=
  (ofClass moduleName name).implementing (.ofInterface "Post.IScanner")

/-- A class of which each instance is made from a title. -/
def titled (moduleName name : String) : Declaration :=
  ((ofClass moduleName name).withMarker .factorySource).withConstructor
    { parameters := [⟨"title", .string, none⟩] }

/-- A class that is marked as a decorator of some interfaces, of those in `inner` with a constructor
    that takes one. -/
def wrapping (name : String) (inner targets : List TypeRef) : Declaration :=
  { ofClass "Post" name with
    constructors := inner.map fun target => { parameters := [⟨"inner", target, none⟩] }
    markers := targets.map fun target => .decoratorFor target 0 }

/-- A class that is bound to two sections, to one of them twice. -/
def rates : Declaration :=
  ((ofClass "Post" "Post.Rates").withMarker
    (.configurationSection { instanceName := some "express" })).withMarker
    (.configurationSection {}) |>.withMarker (.configurationSection { path := some "Parcels" })

end Declaration

namespace CodeModule

/-- The current module of the parcel service. A lid is marked twice as a decorator of bags, but does
    not take one. -/
def post : CodeModule where
  name := "Post"
  types := [.traced "Post" "Post.Office", .traced "Post" "Post.Depot",
    .wrapping "Post.Sealer" [.ofInterface "Post.ILetter", .ofInterface "Post.IBox"]
      [.ofInterface "Post.ILetter", .ofInterface "Post.IBox"],
    .wrapping "Post.Lid" [] [.ofInterface "Post.IBag", .ofInterface "Post.IBag"],
    .rates]

def vans : CodeModule where
  name := "Vans"
  participates := true
  types := [.traced "Vans" "Vans.Truck", .scanner "Vans" "Vans.Laser", .titled "Vans" "Vans.Trip"]

/-- Maps, with a draft that generated code cannot name. -/
def maps : CodeModule where
  name := "Maps"
  participates := true
  types := [.titled "Maps" "Maps.Route", .scanner "Maps" "Maps.Radar",
    (Declaration.ofClass "Maps" "Maps.Draft").nestedIn .owner]

end CodeModule

/-- A build with two modules that take part in it; neither the modules nor their types are given in
    the order of generation. -/
def Graph.parcelPost : Graph where
  current := "Post"
  modules := [.vans, .post, .maps]

/-- The options of that build, which name the interface of the plugins. -/
def Options.scanning : Options := { pluginInterfaces := ["Post.IScanner"] }

/-- The lists of the plan: the current module before the others, which come by name, and in each of
    them the types by name. What is reported twice about the lid is listed once. -/
structure Plan.ListsParcels (p : Plan) : Prop where
  services : p.services.map Service.placement =
    [⟨"Post", "Post.Depot"⟩, ⟨"Post", "Post.Office"⟩, ⟨"Vans", "Vans.Truck"⟩]
  plugins : p.plugins.map Plugin.placement = [⟨"Maps", "Maps.Radar"⟩, ⟨"Vans", "Vans.Laser"⟩]
  factories : p.factories.map Factory.placement = [⟨"Maps", "Maps.Route"⟩, ⟨"Vans", "Vans.Trip"⟩]
  proxies : p.proxies.map Proxy.placement =
    [⟨"Post", "Post.Depot"⟩, ⟨"Post", "Post.Office"⟩, ⟨"Vans", "Vans.Truck"⟩]
  chains : p.chains.map (·.target.text) = ["Post.IBox", "Post.ILetter"]
  bindings : p.bindings.map (fun b => (b.placement, b.path, b.instanceName)) =
    [(⟨"Post", "Post.Rates"⟩, "Parcels", none), (⟨"Post", "Post.Rates"⟩, "Rates", none),
      (⟨"Post", "Post.Rates"⟩, "Rates", some "express")]
  bootstrap : p.bootstrap = ["Maps", "Vans"]
  diagnostics : p.diagnostics =
    [.of .inaccessibleCandidate ["Maps.Draft", "Maps"] (.codeModule "Maps"),
      .of .decoratorMissingInner ["Post.Lid", "Post.IBag"] (.codeModule "Post")]

/-- The modules are planned in the order of generation. -/
theorem Survey.allFindings_parcelPost :
    (Survey.mk .parcelPost .scanning).allFindings =
      .join "" ([.post, .maps, .vans].map (Survey.mk .parcelPost .scanning).findings) := by
  have hmodules : (Survey.mk .parcelPost .scanning).plannedModules = [.post, .maps, .vans] :=
    List.sortBy_eq_of_pairwise_lt _ (by decide +kernel) (by decide +kernel)
  rw [allFindings, hmodules]

/-- What is found in the declarations and in the check across modules. -/
theorem Survey.reports_parcelPost :
    (Survey.mk .parcelPost .scanning).allFindings.diagnostics ++
        (Survey.mk .parcelPost .scanning).check =
      [.of .decoratorMissingInner ["Post.Lid", "Post.IBag"] (.codeModule "Post"),
        .of .decoratorMissingInner ["Post.Lid", "Post.IBag"] (.codeModule "Post"),
        .of .inaccessibleCandidate ["Maps.Draft", "Maps"] (.codeModule "Maps")] := by
  rw [allFindings_parcelPost]
  decide +kernel

theorem Survey.listsParcels_plan : (Survey.mk .parcelPost .scanning).plan.ListsParcels := by
  let s : Survey := ⟨.parcelPost, .scanning⟩
  have hfound := allFindings_parcelPost
  -- Lists that increase strictly are what the findings, listed module by module, are sorted to
  refine ⟨?services, ?plugins, ?factories, ?proxies, ?chains, ?bindings, ?bootstrap, ?diagnostics⟩
  case services | plugins | factories | proxies =>
    refine List.map_sortBy_eq_of_pairwise_lt (Placement.order "Post") ?_ (by decide +kernel)
    rw [hfound]
    decide +kernel
  case chains =>
    have htargets : s.allFindings.chains.map (·.target.text) = ["Post.IBox", "Post.ILetter"] := by
      refine Chain.map_target_compose.trans
        (List.map_sortBy_eq_of_pairwise_lt compare ?_ (by decide +kernel))
      rw [hfound]
      decide +kernel
    exact List.map_sortBy_eq_of_pairwise_lt compare (.of_eq htargets) (by decide +kernel)
  case bindings =>
    refine List.map_sortBy_eq_of_pairwise_lt
      (compareLex (Placement.orderOn "Post" fun k : Placement × String × Option String => k.1) <|
        compareLex (compareOn (·.2.1)) (compareOn (·.2.2))) ?_ (by decide +kernel)
    rw [hfound]
    decide +kernel
  case bootstrap =>
    have hnames : (s.graph.participating.map (·.name)).Perm ["Maps", "Vans"] :=
      ((List.sortBy_perm _ _).map _).trans (by decide +kernel)
    exact List.sortDistinct_eq_of_pairwise_lt compare (fun _ => hnames.mem_iff) (by decide +kernel)
  case diagnostics =>
    refine List.sortDistinct_eq_of_pairwise_lt Diagnostic.order (fun e => ?_) (by decide +kernel)
    rw [reports_parcelPost]
    grind

/-- The plan of the parcel service is in order; of three diagnostics that are found it lists two,
    which differ. -/
theorem parcelPost_is_in_order :
    Graph.parcelPost.validate = .ok () ∧
      ∃ p, Graph.parcelPost.plan .scanning = .ok p ∧ p.IsInOrder ∧ p.inOrder = p ∧
        p.ListsParcels ∧
        ((Survey.mk .parcelPost .scanning).allFindings.diagnostics ++
          (Survey.mk .parcelPost .scanning).check).length = 3 := by
  have hvalid : Graph.parcelPost.validate = .ok () := by decide
  obtain ⟨p, hp, hsorted, hagain⟩ := plan_is_in_order Graph.parcelPost .scanning hvalid
  refine ⟨hvalid, p, hp, hsorted, hagain, ?_, ?_⟩
  · exact Graph.eq_plan_of_plan_eq_ok hvalid hp ▸ Survey.listsParcels_plan
  · rw [Survey.reports_parcelPost]
    rfl

end Wiring
