/-
  Wiring.Proofs.Survey.RegistrationKeys

  Under what a service is known to the container: its type and each of its interfaces, without a
  service key and once under each service key. No two of these registration keys are the same,
  because no two interfaces of a service have the same text and no service key is listed twice; and
  the service keys are those that the markers of the declaration give, in the order in which each of
  them is given first.
-/

import Wiring.Proofs.Survey.Findings
import Wiring.Proofs.Listing.Distinct
import Mathlib.Data.List.Permutation

namespace List

/-- The elements kept by their keys are in the order in which the keys are used first. -/
theorem pairwise_idxOf_distinctOnFrom {α κ : Type} [BEq κ] [LawfulBEq κ] (key : α → κ)
    (seen : List κ) (xs : List α) :
    (distinctOnFrom key seen xs).Pairwise fun a b =>
      (xs.map key).idxOf (key a) < (xs.map key).idxOf (key b) := by
  induction xs generalizing seen with
  | nil => exact .nil
  | cons x rest ih =>
      -- Keys other than that of the head are used one place later than in the rest
      have hlater : ∀ y, key y ≠ key x →
          ((x :: rest).map key).idxOf (key y) = (rest.map key).idxOf (key y) + 1 :=
        fun y hne => idxOf_cons_ne _ hne.symm
      have hshift : ∀ {seen : List κ}, key x ∈ seen →
          (distinctOnFrom key seen rest).Pairwise fun a b =>
            ((x :: rest).map key).idxOf (key a) < ((x :: rest).map key).idxOf (key b) := by
        intro seen hx
        have hfresh := (nodup_map_distinctOnFrom key seen rest).2
        refine (ih seen).imp_of_mem fun {a b} ha hb hlt => ?_
        rw [hlater a fun heq => hfresh a ha (heq ▸ hx), hlater b fun heq => hfresh b hb (heq ▸ hx)]
        omega
      rw [distinctOnFrom]
      split
      · rename_i hseen
        exact hshift (contains_iff_mem.mp hseen)
      · refine pairwise_cons.mpr ⟨?_, hshift (mem_cons_self ..)⟩
        intro b hb
        have hnew := (nodup_map_distinctOnFrom key (key x :: seen) rest).2 b hb
        rw [hlater b fun heq => hnew (heq ▸ mem_cons_self ..), map_cons, idxOf_cons_self]
        omega

end List

namespace Wiring

/-! ## The product of names and service keys -/

namespace RegistrationKey

variable {typeName : String} {interfaces serviceKeys : List String} {k : RegistrationKey}

/-- Without a service key and under each of them, the same names are listed. -/
theorem of_eq_flatMap (typeName : String) (interfaces serviceKeys : List String) :
    of typeName interfaces serviceKeys =
      (none :: serviceKeys.map some).flatMap (under typeName interfaces) := by
  rw [of, List.flatMap_cons, List.flatMap_map]

theorem mem_under_iff {serviceKey : Option String} :
    k ∈ under typeName interfaces serviceKey ↔
      (k.isInterface = false ∧ k.name = typeName ∨ k.isInterface = true ∧ k.name ∈ interfaces) ∧
        k.serviceKey = serviceKey := by
  obtain ⟨name, isInterface, key⟩ := k
  cases isInterface <;> simp [under, eq_comm]

theorem mem_of_iff :
    k ∈ of typeName interfaces serviceKeys ↔
      (k.isInterface = false ∧ k.name = typeName ∨ k.isInterface = true ∧ k.name ∈ interfaces) ∧
        (k.serviceKey = none ∨ ∃ key ∈ serviceKeys, k.serviceKey = some key) := by
  simp only [of_eq_flatMap, List.mem_flatMap, List.mem_cons, List.mem_map, mem_under_iff]
  refine ⟨?_, ?_⟩
  · rintro ⟨serviceKey, hlisted, hname, rfl⟩
    refine ⟨hname, hlisted.imp id ?_⟩
    rintro ⟨key, hkey, heq⟩
    exact ⟨key, hkey, heq.symm⟩
  · rintro ⟨hname, hlisted⟩
    refine ⟨k.serviceKey, hlisted.imp id ?_, hname, rfl⟩
    rintro ⟨key, hkey, heq⟩
    exact ⟨key, hkey, heq.symm⟩

/-- There is a key for each pair of a name and a service key or none. -/
theorem length_of (typeName : String) (interfaces serviceKeys : List String) :
    (of typeName interfaces serviceKeys).length =
      (1 + interfaces.length) * (1 + serviceKeys.length) := by
  have hunder : ∀ serviceKey, (under typeName interfaces serviceKey).length =
      1 + interfaces.length := by
    intro serviceKey
    rw [under, List.length_cons, List.length_map]
    omega
  rw [of_eq_flatMap, List.length_flatMap]
  simp only [hunder, List.map_const', List.sum_replicate_nat, List.length_cons, List.length_map]
  rw [Nat.mul_comm, Nat.add_comm serviceKeys.length]

theorem nodup_under (h : interfaces.Nodup) (serviceKey : Option String) :
    (under typeName interfaces serviceKey).Nodup := by
  refine List.nodup_cons.mpr ⟨?_, ?_⟩
  · -- The type is no interface, even if it has the name of one
    intro hmem
    obtain ⟨name, -, heq⟩ := List.mem_map.mp hmem
    cases heq
  · refine h.map fun name name' heq => ?_
    cases heq
    rfl

/-- Where neither interfaces nor service keys repeat, no key does. -/
theorem nodup_of (hinterfaces : interfaces.Nodup) (hkeys : serviceKeys.Nodup) :
    (of typeName interfaces serviceKeys).Nodup := by
  rw [of_eq_flatMap, List.nodup_flatMap]
  refine ⟨fun serviceKey _ => nodup_under hinterfaces serviceKey, ?_⟩
  -- Under different service keys there are different keys
  have hdiffer : (none :: serviceKeys.map some).Nodup := by
    refine List.nodup_cons.mpr ⟨?_, hkeys.map (Option.some_injective _)⟩
    simp
  refine hdiffer.imp fun {a b} hne k ha hb => ?_
  exact hne ((mem_under_iff.mp ha).2.symm.trans (mem_under_iff.mp hb).2)

end RegistrationKey

/-- The registration keys of a service are its type and its interfaces, without a service key and
    under each of its service keys, and each of them once. -/
structure Service.IsKnownUnderProduct (s : Service) : Prop where
  length : s.registrationKeys.length = (1 + s.interfaces.length) * (1 + s.keys.length)
  nodup : s.registrationKeys.Nodup
  mem_iff : ∀ k, k ∈ s.registrationKeys ↔
    (k.isInterface = false ∧ k.name = s.name ∨
      k.isInterface = true ∧ ∃ i ∈ s.interfaces, i.text = k.name) ∧
    (k.serviceKey = none ∨ ∃ key ∈ s.keys, k.serviceKey = some key)

/-- No two interfaces of the same text and no service key twice are enough. -/
theorem Service.isKnownUnderProduct {s : Service}
    (hinterfaces : (s.interfaces.map TypeRef.text).Nodup) (hkeys : s.keys.Nodup) :
    s.IsKnownUnderProduct where
  length := by rw [registrationKeys, RegistrationKey.length_of, List.length_map]
  nodup := RegistrationKey.nodup_of hinterfaces hkeys
  mem_iff k := by rw [registrationKeys, RegistrationKey.mem_of_iff, List.mem_map]

/-! ## The service keys of a declaration -/

namespace Declaration

/-- The texts of the markers that give service keys, as often as they are given. -/
def keyTexts (d : Declaration) : List String := d.markers.filterMap Marker.key?

/-- The service keys that the markers of a declaration give, each once, in the order in which they
    are given first. -/
structure GivesKeys (d : Declaration) (keys : List String) : Prop where
  mem_iff : ∀ key, key ∈ keys ↔ .keyed key ∈ d.markers
  nodup : keys.Nodup
  inOrder : keys.Pairwise fun a b => d.keyTexts.idxOf a < d.keyTexts.idxOf b

theorem mem_keyTexts_iff {d : Declaration} {key : String} :
    key ∈ d.keyTexts ↔ .keyed key ∈ d.markers := by
  rw [keyTexts, List.mem_filterMap]
  refine ⟨?_, fun h => ⟨_, h, rfl⟩⟩
  rintro ⟨marker, hmarker, hkey⟩
  cases marker with
  | keyed text => exact Option.some.inj hkey ▸ hmarker
  | _ => cases hkey

theorem givesKeys_serviceKeys (d : Declaration) : d.GivesKeys d.serviceKeys where
  mem_iff key := by
    have hmap := List.map_distinctOn id d.keyTexts
    rw [List.map_id, List.map_id] at hmap
    rw [serviceKeys, ← keyTexts, hmap, List.mem_eraseDups, mem_keyTexts_iff]
  nodup := by
    have hnodup := List.nodup_map_distinctOn id d.keyTexts
    rwa [List.map_id] at hnodup
  inOrder := by
    have hordered := List.pairwise_idxOf_distinctOnFrom id [] d.keyTexts
    rwa [List.map_id] at hordered

end Declaration

/-! ## The services of a module -/

namespace Survey

variable {s : Survey} {m : CodeModule} {service : Service}

/-- A service that is found in a module is that of one of its declarations. -/
theorem exists_declaration_of_mem_services (h : service ∈ (s.findings m).services) :
    ∃ d ∈ m.types, s.service? d = some service := by
  obtain ⟨part, hpart, hservice⟩ := List.mem_flatMap.mp h
  obtain ⟨d, hd, hpart⟩ := List.mem_flatMap.mp hpart
  refine ⟨d, hd, ?_⟩
  rcases List.mem_cons.mp hpart with rfl | hpart
  · cases hservice
  · -- Of the roles, only that of a service contributes services
    obtain ⟨role, -, rfl⟩ := List.mem_map.mp hpart
    cases role with
    | service => exact Option.mem_toList.mp hservice
    | _ => cases hservice

end Survey

/-- Each service that is found in a module is known under the product of its names and its service
    keys, which are those that its declaration gives. -/
theorem services_known_under_product (s : Survey) (m : CodeModule) (service : Service)
    (h : service ∈ (s.findings m).services) :
    service.IsKnownUnderProduct ∧
      ∃ d ∈ m.types, service.name = d.name ∧ d.GivesKeys service.keys := by
  obtain ⟨d, hd, hmade⟩ := Survey.exists_declaration_of_mem_services h
  obtain ⟨c, -, rfl⟩ := Option.map_eq_some_iff.mp hmade
  have hkeys := d.givesKeys_serviceKeys
  have hinterfaces : ((s.exposedInterfaces d).map TypeRef.text).Nodup :=
    List.nodup_map_distinctOn TypeRef.text _
  exact ⟨Service.isKnownUnderProduct hinterfaces hkeys.nodup, d, hd, rfl, hkeys⟩

/-- A cache that names one of its two interfaces and one of its two service keys twice. -/
def Declaration.redisCache : Declaration where
  name := "App.RedisCache"
  moduleName := "App"
  interfaces := [.ofInterface "App.ICache", .ofInterface "App.IStore", .ofInterface "App.ICache"]
  markers := [.keyed "primary", .keyed "backup", .keyed "primary"]

/-- The module of the cache. -/
def CodeModule.cacheShop : CodeModule := { name := "App", types := [.redisCache] }

/-- A build of this module. -/
def Survey.cacheShop : Survey := ⟨{ current := "App", modules := [.cacheShop] }, {}⟩

/-- The cache is known under nine keys: three names, each without a service key and under two. -/
theorem redisCache_known_under_product :
    ∃ service ∈ (Survey.cacheShop.findings .cacheShop).services,
      service.IsKnownUnderProduct ∧ service.registrationKeys.length = 9 ∧
        ∃ d ∈ CodeModule.cacheShop.types, service.name = d.name ∧ d.GivesKeys service.keys := by
  let service : Service :=
    { name := "App.RedisCache"
      moduleName := "App"
      construction := ⟨0, []⟩
      lifetime := .singleton
      interfaces := [.ofInterface "App.ICache", .ofInterface "App.IStore"]
      keys := ["primary", "backup"] }
  have hfound : (Survey.cacheShop.findings .cacheShop).services = [service] := by
    cbv
  have hservice : service ∈ (Survey.cacheShop.findings .cacheShop).services := by
    rw [hfound]
    exact .head _
  obtain ⟨hproduct, hdeclared⟩ :=
    services_known_under_product .cacheShop .cacheShop service hservice
  exact ⟨service, hservice, hproduct, hproduct.length, hdeclared⟩

end Wiring
