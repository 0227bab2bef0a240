/-
  Wiring.Proofs.Configuration.TopLevel

  Which bindings are kept. A binding mentions the types of its settable properties and the classes
  that are bound as sections inside of it, however deep. One whose type a binding of another type
  mentions is removed; those that are left do not mention each other, so no more are removed.
-/

import Wiring.Proofs.Configuration.Nesting

namespace Wiring

/-! ## Sections at any depth -/

/-- A class is bound as a section for one of the properties, or inside of such a section. -/
inductive BoundProperty.HasSection : List BoundProperty → String → Prop where
  | here {properties inner : List BoundProperty} {p : BoundProperty} {type : String}
      (hp : p ∈ properties) (hnested : p.coercion = .nested type inner) :
      HasSection properties type
  | inside {properties inner : List BoundProperty} {p : BoundProperty} {outer type : String}
      (hp : p ∈ properties) (hnested : p.coercion = .nested outer inner)
      (hinner : HasSection inner type) : HasSection properties type

/-- More properties have more sections. -/
theorem BoundProperty.HasSection.mono {properties more : List BoundProperty} {type : String}
    (h : HasSection properties type) (hsub : properties ⊆ more) : HasSection more type := by
  cases h with
  | here hp hnested => exact .here (hsub hp) hnested
  | inside hp hnested hinner => exact .inside (hsub hp) hnested hinner

mutual

/-- A class inside a coercion is the one that is bound, or has a section inside of it. -/
theorem Coercion.hasSection_of_mem_nestedTypes {type : String} : ∀ {coercion : Coercion},
    type ∈ coercion.nestedTypes →
      ∃ outer inner, coercion = .nested outer inner ∧
        (type = outer ∨ BoundProperty.HasSection inner type)
  | .nested outer inner, h => by
    rw [Coercion.nestedTypes, List.mem_cons] at h
    exact ⟨outer, inner, rfl, h.imp_right BoundProperty.hasSection_of_mem_nestedTypes⟩
  | .passthrough, h | .numeric _, h | .boolean, h | .temporal _, h | .guid, h | .enum _ _, h => by
    cases h

/-- A class inside properties has a section there. -/
theorem BoundProperty.hasSection_of_mem_nestedTypes {type : String} :
    ∀ {properties : List BoundProperty}, type ∈ BoundProperty.nestedTypes properties →
      BoundProperty.HasSection properties type
  | [], h => by cases h
  | ⟨_, _, _, _, coercion⟩ :: rest, h => by
    rw [BoundProperty.nestedTypes, List.mem_append] at h
    rcases h with hfirst | hrest
    · obtain ⟨outer, inner, hnested, rfl | hinner⟩ :=
        Coercion.hasSection_of_mem_nestedTypes hfirst
      · exact .here List.mem_cons_self hnested
      · exact .inside List.mem_cons_self hnested hinner
    · exact (BoundProperty.hasSection_of_mem_nestedTypes hrest).mono (List.subset_cons_self _ rest)

end

/-- What is collected from properties are the classes that have a section there. -/
theorem BoundProperty.mem_nestedTypes_iff_hasSection {type : String}
    {properties : List BoundProperty} :
    type ∈ nestedTypes properties ↔ HasSection properties type := by
  refine ⟨hasSection_of_mem_nestedTypes, fun h => ?_⟩
  induction h with
  | here hp hnested =>
      refine mem_nestedTypes_iff.mpr ⟨_, hp, ?_⟩
      rw [hnested, Coercion.nestedTypes]
      exact List.mem_cons_self
  | inside hp hnested _ ih =>
      refine mem_nestedTypes_iff.mpr ⟨_, hp, ?_⟩
      rw [hnested, Coercion.nestedTypes]
      exact List.mem_cons_of_mem _ ih

/-! ## The bindings that are kept -/

namespace Binding

variable {bindings : List Binding} {b : Binding} {type : String}

/-- The type is one of those of the settable properties, or has a section inside of the binding. -/
def MentionsType (b : Binding) (type : String) : Prop :=
  type ∈ b.propertyTypes ∨ BoundProperty.HasSection b.properties type

instance (b : Binding) (type : String) : Decidable (b.MentionsType type) :=
  decidable_of_iff (type ∈ b.propertyTypes ∨ type ∈ BoundProperty.nestedTypes b.properties)
    (or_congr_right BoundProperty.mem_nestedTypes_iff_hasSection)

/-- No binding of another type mentions the bound type. -/
def IsUnmentioned (b : Binding) (bindings : List Binding) : Prop :=
  ∀ other ∈ bindings, other.boundType ≠ b.boundType → ¬ other.MentionsType b.boundType

instance (b : Binding) (bindings : List Binding) : Decidable (b.IsUnmentioned bindings) :=
  inferInstanceAs (Decidable (∀ _ ∈ _, _))

/-- Fewer bindings mention fewer types. -/
theorem IsUnmentioned.anti {fewer : List Binding} (h : b.IsUnmentioned bindings)
    (hsub : fewer ⊆ bindings) : b.IsUnmentioned fewer := by
  intro other hother
  exact h other (hsub hother)

/-- What a binding covers are the types it mentions, without its own. -/
theorem mem_covered_iff : type ∈ b.covered ↔ b.MentionsType type ∧ b.boundType ≠ type := by
  rw [covered, List.mem_filter, List.mem_append, bne_iff_ne,
    BoundProperty.mem_nestedTypes_iff_hasSection, ne_comm]
  rfl

theorem removeNested_eq_filter (bindings : List Binding) :
    removeNested bindings = bindings.filter fun b => b.IsUnmentioned bindings := by
  unfold removeNested
  apply List.filter_congr
  intro b _
  rw [Bool.eq_iff_iff, decide_eq_true_iff]
  simp only [Bool.not_eq_true', List.any_eq_false, List.contains_iff_mem, mem_covered_iff]
  refine forall₂_congr fun other _ => ?_
  tauto

/-- No kept binding mentions the type of another one. -/
theorem isUnmentioned_of_mem_removeNested (h : b ∈ removeNested bindings) :
    b.IsUnmentioned (removeNested bindings) := by
  rw [removeNested_eq_filter] at h ⊢
  have hunmentioned : b.IsUnmentioned bindings := of_decide_eq_true (List.mem_filter.mp h).2
  exact hunmentioned.anti (List.filter_subset_self _)

end Binding

/-- Those bindings are kept, in their order, whose types no binding of another type mentions; none
    of them mentions the type of another one, so removing once more changes nothing. -/
theorem removeNested_keeps_unmentioned (bindings : List Binding) :
    Binding.removeNested bindings = bindings.filter (fun b => b.IsUnmentioned bindings) ∧
      (∀ b ∈ Binding.removeNested bindings, ∀ other ∈ Binding.removeNested bindings,
        other.boundType ≠ b.boundType → ¬ other.MentionsType b.boundType) ∧
      Binding.removeNested (Binding.removeNested bindings) = Binding.removeNested bindings := by
  refine ⟨Binding.removeNested_eq_filter bindings, ?_, ?_⟩
  · intro b hb
    exact Binding.isUnmentioned_of_mem_removeNested hb
  · rw [Binding.removeNested_eq_filter (Binding.removeNested bindings), List.filter_eq_self]
    intro b hb
    exact decide_eq_true (Binding.isUnmentioned_of_mem_removeNested hb)

/-- A section of the type's own name. -/
def Binding.plain (type : String) (properties : List BoundProperty)
    (propertyTypes : List String) : Binding where
  boundType := type
  moduleName := "App"
  path := type
  instanceName := none
  validateOnStart := false
  validator := none
  properties := properties
  needsConstructor := false
  propertyTypes := propertyTypes
  location := none

/-- The sections of a client, whose retries have a delay, and those of a log. -/
def Binding.clientSections : List Binding :=
  let delay : BoundProperty := ⟨"Delay", .ofClass "Delay", false, false, .nested "Delay" []⟩
  let retry : BoundProperty := ⟨"Retry", .ofClass "Retry", false, false, .nested "Retry" [delay]⟩
  [.plain "Delay" [] [], .plain "Log" [] ["Log"], .plain "Client" [retry] [],
    .plain "Retry" [delay] [], .plain "Log" [] []]

/-- The client mentions its retries and the delay inside of them; a log mentions nothing but
    itself. -/
theorem clientSections_keep_unmentioned :
    (Binding.removeNested Binding.clientSections).map (·.boundType) = ["Log", "Client", "Log"] ∧
      Binding.removeNested (Binding.removeNested Binding.clientSections) =
        Binding.removeNested Binding.clientSections := by
  obtain ⟨-, -, hagain⟩ := removeNested_keeps_unmentioned Binding.clientSections
  exact ⟨by decide, hagain⟩

end Wiring
