/-
  Wiring.Proofs.Decoration.Linearization

  What becomes of the decorators of a build when they are put into chains. They are grouped by the
  text of their targets, each group is sorted, and of the decorators with one type the first is
  kept; so every decorator has exactly one layer in the chain of each of its targets, and the order
  of that layer is the lowest it was given. The layers are counted from the inside, and the nesting
  of an implementation reads them from the outside.
-/

import Wiring.Decoration.Chain
import Wiring.Proofs.Listing.Lowest
import Mathlib.Data.List.Permutation

namespace Wiring

open Std

/-- A chain has all decorators of its target in a line, and wraps every service that exposes the
    target. -/
structure Chain.Linearizes (c : Chain) (decorators : List Decorator) (services : List Service) :
    Prop where
  targeted : ∃ d ∈ decorators, d.target = c.target
  /-- The decorators of the chain are those with a target of its text. -/
  decorated : ∀ type, type ∈ c.innermostFirst ↔
    ∃ d ∈ decorators, d.target.text = c.target.text ∧ d.type = type
  once : c.innermostFirst.Nodup
  /-- A layer is made as one of its decorators is. -/
  made : ∀ l ∈ c.layers, ∃ d ∈ decorators, d.target.text = c.target.text ∧ l = d.layer l.position
  lowest : ∀ l ∈ c.layers, IsLeast
    {place | ∃ d ∈ decorators, d.target.text = c.target.text ∧ d.type = l.decorator ∧
      d.order = place} l.order
  sorted : c.layers.Pairwise fun l l' =>
    l.order < l'.order ∨ l.order = l'.order ∧ l.decorator.text ≤ l'.decorator.text
  positions : c.layers.map (·.position) = List.range' 1 c.layers.length
  wrapped : ∀ name, name ∈ c.implementations ↔
    ∃ s ∈ services, s.name = name ∧ ∃ i ∈ s.interfaces, i.sameType c.target = true
  increasing : c.implementations.Pairwise (· < ·)
  /-- The layer at position `n` stands `n` places before the implementation, and nothing else does. -/
  nested : ∀ implementation, (c.nesting implementation).length = c.layers.length + 1 ∧
    (c.nesting implementation)[c.layers.length]? = some implementation ∧
    ∀ l ∈ c.layers,
      (c.nesting implementation)[c.layers.length - l.position]? = some l.decorator.text

namespace Decorator

variable {members : List Decorator}

/-! ## Inner decorators before outer ones -/

instance : TransCmp innerFirst :=
  inferInstanceAs (TransCmp (List.byPlace _ _))

theorem innerFirst_isLE_iff {a b : Decorator} :
    (innerFirst a b).isLE = true ↔
      a.order < b.order ∨ a.order = b.order ∧ a.type.text ≤ b.type.text :=
  List.byPlace_isLE_iff

/-! ## The layers of one target -/

/-- The decorators of one target in their order, each of them once. -/
def inLine (members : List Decorator) : List Decorator :=
  (members.sortBy innerFirst).distinctOn (·.type)

theorem inLine_eq : inLine members = members.lowestFirst (·.order) (·.type.text) (·.type) := rfl

theorem layers_eq : layers members =
    (inLine members).zipIdx.map fun entry => entry.1.layer (entry.2 + 1) := rfl

theorem length_layers : (layers members).length = (inLine members).length := by
  rw [layers_eq, List.length_map, List.length_zipIdx]

/-- The layer behind `i` others is that of the decorator behind `i` others, and has the position
    `i + 1`. -/
theorem getElem?_layers (i : Nat) :
    (layers members)[i]? = (inLine members)[i]?.map fun d => d.layer (i + 1) := by
  rw [layers_eq, List.getElem?_map, List.getElem?_zipIdx, Option.map_map, Nat.zero_add]
  rfl

theorem map_decorator_layers : (layers members).map (·.decorator) = (inLine members).map (·.type) := by
  apply List.ext_getElem?
  intro i
  rw [List.getElem?_map, List.getElem?_map, getElem?_layers, Option.map_map]
  rfl

theorem map_position_layers :
    (layers members).map (·.position) = List.range' 1 (layers members).length := by
  have hcounted : (layers members).map (·.position) =
      ((inLine members).zipIdx.map Prod.snd).map (1 + ·) := by
    rw [layers_eq, List.map_map, List.map_map]
    exact List.map_congr_left fun entry _ => Nat.add_comm entry.2 1
  rw [hcounted, List.zipIdx_map_snd, length_layers, List.map_add_range']

/-- Each layer stands at its position. -/
theorem getElem?_position {l : Layer} (h : l ∈ layers members) :
    1 ≤ l.position ∧ l.position ≤ (layers members).length ∧
      (layers members)[l.position - 1]? = some l := by
  obtain ⟨i, hi⟩ := List.mem_iff_getElem?.mp h
  have hlt : i < (layers members).length := (List.getElem?_eq_some_iff.mp hi).1
  have hposition : l.position = i + 1 := by
    rw [getElem?_layers, Option.map_eq_some_iff] at hi
    obtain ⟨d, -, rfl⟩ := hi
    rfl
  rw [hposition, Nat.add_sub_cancel]
  exact ⟨Nat.le_add_left 1 i, hlt, hi⟩

theorem mem_inLine_of_mem_layers {l : Layer} (h : l ∈ layers members) :
    ∃ d ∈ inLine members, l = d.layer l.position := by
  obtain ⟨⟨d, i⟩, hentry, rfl⟩ := List.mem_map.mp h
  exact ⟨d, List.fst_mem_of_mem_zipIdx hentry, rfl⟩

theorem mem_of_mem_inLine {d : Decorator} (h : d ∈ inLine members) : d ∈ members :=
  List.mem_of_mem_lowestFirst (inLine_eq ▸ h)

/-- A decorator in line has the lowest order of all those of its type. -/
theorem order_le_of_mem_inLine {d e : Decorator} (hd : d ∈ inLine members) (he : e ∈ members)
    (htype : e.type = d.type) : d.order ≤ e.order := by
  rw [inLine_eq] at hd
  exact (List.isLeast_of_mem_lowestFirst hd).2 ⟨e, he, htype, rfl⟩

/-- Every type among the decorators of a target is in line, and no other. -/
theorem mem_map_type_inLine_iff {type : TypeRef} :
    type ∈ (inLine members).map (·.type) ↔ ∃ d ∈ members, d.type = type := by
  rw [inLine_eq, List.mem_map_lowestFirst_iff]

theorem pairwise_inLine : (inLine members).Pairwise fun d e => (innerFirst d e).isLE = true :=
  (List.pairwise_sortBy innerFirst members).sublist (List.distinctOn_sublist _ _)

theorem pairwise_layers : (layers members).Pairwise fun l l' =>
    l.order < l'.order ∨ l.order = l'.order ∧ l.decorator.text ≤ l'.decorator.text := by
  -- The layers agree with the decorators in line in all that they are sorted by
  have hfst : (layers members).map (fun l => (l.order, l.decorator.text)) =
      (inLine members).map fun d => (d.order, d.type.text) := by
    apply List.ext_getElem?
    intro i
    rw [List.getElem?_map, List.getElem?_map, getElem?_layers, Option.map_map]
    rfl
  have hpairs : ((layers members).map fun l => (l.order, l.decorator.text)).Pairwise fun p q =>
      p.1 < q.1 ∨ p.1 = q.1 ∧ p.2 ≤ q.2 := by
    rw [hfst, List.pairwise_map]
    exact pairwise_inLine.imp innerFirst_isLE_iff.mp
  exact List.pairwise_map.mp hpairs

end Decorator

namespace Chain

variable {decorators : List Decorator} {services : List Service} {c : Chain}

/-! ## The chains -/

/-- The targets of the chains, which have different texts. -/
theorem map_target_compose :
    (compose decorators services).map (fun c => c.target.text) =
      (((decorators.map (·.target)).distinctOn TypeRef.text).sortBy
        (compareOn TypeRef.text)).map TypeRef.text := by
  rw [compose, List.map_map]
  rfl

theorem pairwise_target_compose :
    ((compose decorators services).map fun c => c.target.text).Pairwise (· < ·) := by
  rw [map_target_compose, List.pairwise_map]
  have hnodup := List.nodup_map_distinctOn TypeRef.text (decorators.map (·.target))
  exact (List.pairwise_lt_sortBy compare hnodup).imp compareOfLessAndEq_eq_lt.mp

theorem mem_target_compose_iff {text : String} :
    text ∈ (compose decorators services).map (fun c => c.target.text) ↔
      ∃ d ∈ decorators, d.target.text = text := by
  have hperm := (List.sortBy_perm (compareOn TypeRef.text)
    ((decorators.map (·.target)).distinctOn TypeRef.text)).map TypeRef.text
  rw [map_target_compose, hperm.mem_iff, List.map_distinctOn, List.mem_eraseDups, List.map_map,
    List.mem_map]
  rfl

/-- A chain is that of its target. -/
theorem eq_of_mem_compose (h : c ∈ compose decorators services) :
    (∃ d ∈ decorators, d.target = c.target) ∧
      c = .of c.target (decorators.filter fun d => d.target.text == c.target.text) services := by
  obtain ⟨target, htarget, rfl⟩ := List.mem_map.mp h
  have hnamed := (List.distinctOn_sublist _ _).mem (List.mem_sortBy.mp htarget)
  exact ⟨List.mem_map.mp hnamed, rfl⟩

/-! ## The nesting -/

/-- The nesting reads the layers backwards, with the implementation behind them. -/
theorem getElem?_nesting {members : List Decorator} (hlayers : c.layers = Decorator.layers members)
    (implementation : String) :
    (c.nesting implementation).length = c.layers.length + 1 ∧
      (c.nesting implementation)[c.layers.length]? = some implementation ∧
      ∀ l ∈ c.layers,
        (c.nesting implementation)[c.layers.length - l.position]? = some l.decorator.text := by
  have hlength : (c.outermostFirst.map TypeRef.text).length = c.layers.length := by
    rw [outermostFirst, List.length_map, List.length_map, List.length_reverse]
  unfold nesting
  refine ⟨?_, ?_, ?_⟩
  · rw [List.length_append, hlength, List.length_singleton]
  · rw [← hlength, List.getElem?_concat_length]
  · intro l hl
    have hmem := hl
    rw [hlayers] at hmem
    obtain ⟨hone, hle, hat⟩ := Decorator.getElem?_position hmem
    rw [← hlayers] at hle hat
    have hinside : c.layers.length - l.position < c.layers.length := by omega
    have hback : c.layers.length - 1 - (c.layers.length - l.position) = l.position - 1 := by omega
    rw [List.getElem?_append_left (hlength ▸ hinside), outermostFirst, List.map_map,
      List.getElem?_map, List.getElem?_reverse hinside, hback, hat]
    rfl

/-- The chain of a target has the decorators of that target in a line. -/
theorem linearizes_of_mem_compose (h : c ∈ compose decorators services) :
    c.Linearizes decorators services := by
  obtain ⟨htarget, hchain⟩ := eq_of_mem_compose h
  have hlayers : c.layers = Decorator.layers
      (decorators.filter fun d => d.target.text == c.target.text) :=
    congrArg Chain.layers hchain
  have himplementations : c.implementations =
      ((services.filter (·.exposes c.target)).map (·.name)).sortDistinct compare :=
    congrArg Chain.implementations hchain
  have hinnermost : c.innermostFirst = (Decorator.inLine
      (decorators.filter fun d => d.target.text == c.target.text)).map (·.type) := by
    rw [innermostFirst, hlayers, Decorator.map_decorator_layers]
  have hmember : ∀ d, d ∈ decorators.filter (fun d => d.target.text == c.target.text) ↔
      d ∈ decorators ∧ d.target.text = c.target.text := by
    intro d
    rw [List.mem_filter, beq_iff_eq]
  constructor
  case targeted => exact htarget
  case decorated =>
    intro type
    rw [hinnermost, Decorator.mem_map_type_inLine_iff]
    simp only [hmember, and_assoc]
  case once =>
    rw [hinnermost]
    exact List.nodup_map_distinctOn _ _
  case made =>
    intro l hl
    rw [hlayers] at hl
    obtain ⟨d, hd, hlayer⟩ := Decorator.mem_inLine_of_mem_layers hl
    obtain ⟨hdecorator, htext⟩ := (hmember d).mp (Decorator.mem_of_mem_inLine hd)
    exact ⟨d, hdecorator, htext, hlayer⟩
  case lowest =>
    intro l hl
    rw [hlayers] at hl
    obtain ⟨d, hd, hlayer⟩ := Decorator.mem_inLine_of_mem_layers hl
    obtain ⟨hdecorator, htext⟩ := (hmember d).mp (Decorator.mem_of_mem_inLine hd)
    have horder : d.order = l.order := by rw [hlayer]; rfl
    have htype : d.type = l.decorator := by rw [hlayer]; rfl
    refine ⟨⟨d, hdecorator, htext, htype, horder⟩, ?_⟩
    -- Any other decorator of the type comes behind it
    rintro place ⟨e, he, hetext, hetype, rfl⟩
    rw [← horder]
    exact Decorator.order_le_of_mem_inLine hd ((hmember e).mpr ⟨he, hetext⟩)
      (hetype.trans htype.symm)
  case sorted =>
    rw [hlayers]
    exact Decorator.pairwise_layers
  case positions =>
    rw [hlayers]
    exact Decorator.map_position_layers
  case wrapped =>
    intro name
    rw [himplementations, List.mem_sortDistinct, List.mem_map]
    simp only [List.mem_filter, Service.exposes, List.any_eq_true]
    exact exists_congr fun s => by rw [and_assoc, and_comm (a := s.name = name)]
  case increasing =>
    rw [himplementations]
    exact (List.pairwise_sortDistinct compare _).imp compareOfLessAndEq_eq_lt.mp
  case nested => exact fun implementation => getElem?_nesting hlayers implementation

/-- Every decorator stands in the chain of its target. -/
theorem exists_mem_compose (services : List Service) {d : Decorator} (hd : d ∈ decorators) :
    ∃ c ∈ compose decorators services, c.target.text = d.target.text ∧
      d.type ∈ c.innermostFirst := by
  have htarget : d.target.text ∈ (compose decorators services).map fun c => c.target.text :=
    mem_target_compose_iff.mpr ⟨d, hd, rfl⟩
  obtain ⟨c, hc, htext⟩ := List.mem_map.mp htarget
  have hlinearizes := linearizes_of_mem_compose hc
  exact ⟨c, hc, htext, (hlinearizes.decorated d.type).mpr ⟨d, hd, htext.symm, rfl⟩⟩

/-- The chains stand in the order of the texts of their targets, one for each text, and each of them
    has the decorators of its target in a line. -/
theorem compose_linearizes (decorators : List Decorator) (services : List Service) :
    ((compose decorators services).map fun c => c.target.text).Pairwise (· < ·) ∧
      (∀ text, text ∈ (compose decorators services).map (fun c => c.target.text) ↔
        ∃ d ∈ decorators, d.target.text = text) ∧
      ∀ c ∈ compose decorators services, c.Linearizes decorators services :=
  ⟨pairwise_target_compose, fun _ => mem_target_compose_iff, fun _ => linearizes_of_mem_compose⟩

end Chain

/-- A decorator as a marker asks for it, with the decorated instance as its only argument. -/
def Decorator.around (name : String) (target : TypeRef) (place : Int32) : Decorator :=
  ⟨.ofClass name, target, place, "App", ⟨0, [⟨"inner", target, .inner⟩]⟩, false⟩

/-- Decorators of mailers and one of clocks; two of them come at the same place, and one is asked for
    twice. -/
def Decorator.ofOffice : List Decorator :=
  [around "App.Signing" (.ofInterface "App.IMailer") 3,
    around "App.Logging" (.ofInterface "App.IMailer") 2,
    around "App.Caching" (.ofInterface "App.IClock") 0,
    around "App.Audit" (.ofInterface "App.IMailer") 2,
    around "App.Signing" (.ofInterface "App.IMailer") 1]

/-- Two services that expose mailers. -/
def Service.ofOffice : List Service :=
  ["App.Postman", "App.Mailer"].map fun name =>
    ⟨name, "App", ⟨0, []⟩, .singleton, [.ofInterface "App.IMailer"], [], none⟩

/-- The decorators of the mailers are in a line, with the one that is asked for twice at its lower
    place. -/
theorem office_linearizes :
    ∃ c ∈ Chain.compose Decorator.ofOffice Service.ofOffice,
      c.target.text = (TypeRef.ofInterface "App.IMailer").text ∧
        c.Linearizes Decorator.ofOffice Service.ofOffice ∧
        ∃ l ∈ c.layers, l.decorator = .ofClass "App.Signing" ∧ l.order = 1 := by
  let signing : Decorator := .around "App.Signing" (.ofInterface "App.IMailer") 1
  have hsigning : signing ∈ Decorator.ofOffice := by decide
  obtain ⟨-, htexts, hall⟩ := Chain.compose_linearizes Decorator.ofOffice Service.ofOffice
  -- There is a chain for mailers, and the decorator has a layer in it
  obtain ⟨c, hc, htext⟩ := List.mem_map.mp ((htexts _).mpr ⟨signing, hsigning, rfl⟩)
  have hlinearizes := hall c hc
  obtain ⟨l, hl, hdecorator⟩ := List.mem_map.mp
    ((hlinearizes.decorated signing.type).mpr ⟨signing, hsigning, htext.symm, rfl⟩)
  refine ⟨c, hc, htext, hlinearizes, l, hl, hdecorator, ?_⟩
  obtain ⟨⟨d, hd, -, htype, horder⟩, hleast⟩ := hlinearizes.lowest l hl
  have hle : l.order ≤ 1 := hleast ⟨signing, hsigning, htext.symm, hdecorator.symm, rfl⟩
  have hplaces : ∀ e ∈ Decorator.ofOffice, e.type = signing.type → e.order = 1 ∨ e.order = 3 := by
    decide
  rcases hplaces d hd (htype.trans hdecorator) with hone | hthree
  · exact horder.symm.trans hone
  · rw [← horder, hthree] at hle
    exact absurd hle (by decide)

end Wiring
