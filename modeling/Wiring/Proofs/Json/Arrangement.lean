/-
  Wiring.Proofs.Json.Arrangement

  Reading back what was written, whatever the order of its fields. An arrangement puts the fields of
  every object in some order and changes nothing else; leaving them as they are is one, sorting them
  by name another. A reader finds each field by its name, so what it gives back does not depend on
  the arrangement, and fields that it does not know are passed over.
-/

import Wiring.Proofs.Json.Reader
import Wiring.Proofs.Listing.Sorted

namespace Wiring.Json

/-! ## Arrangements -/

/-- The function puts the fields of every object in some order, and changes nothing else. -/
structure Arranges (f : Json → Json) : Prop where
  null : f .null = .null
  bool (value : Bool) : f (.bool value) = .bool value
  number (value : Int) : f (.number value) = .number value
  text (value : String) : f (.text value) = .text value
  array (items : List Json) : f (.array items) = .array (items.map f)
  object (fields : List (String × Json)) : ∃ arranged,
    f (.object fields) = .object arranged ∧
      arranged.Perm (fields.map fun field => (field.1, f field.2))

/-- To leave the fields as they are is an arrangement. -/
theorem Arranges.id : Arranges fun value => value where
  null := rfl
  bool _ := rfl
  number _ := rfl
  text _ := rfl
  array items := by rw [List.map_id']
  object fields := ⟨fields, rfl, by rw [List.map_id']⟩

theorem Arranges.ne_null {f : Json → Json} (hf : Arranges f) {value : Json} (h : value ≠ .null) :
    f value ≠ .null := by
  cases value with
  | null => exact absurd rfl h
  | bool _ | number _ | text _ | array _ => simp [hf.bool, hf.number, hf.text, hf.array]
  | object fields =>
      obtain ⟨arranged, harranged, -⟩ := hf.object fields
      simp [harranged]

theorem sortedItems_eq_map (items : List Json) : sortedItems items = items.map sorted := by
  induction items with
  | nil => rw [sortedItems, List.map_nil]
  | cons item rest ih => rw [sortedItems, List.map_cons, ih]

theorem sortedFields_eq_map (fields : List (String × Json)) :
    sortedFields fields = fields.map fun field => (field.1, field.2.sorted) := by
  induction fields with
  | nil => rw [sortedFields, List.map_nil]
  | cons field rest ih =>
      obtain ⟨name, value⟩ := field
      rw [sortedFields, List.map_cons, ih]

/-- To sort the fields by name is an arrangement. -/
theorem Arranges.sorted : Arranges Json.sorted where
  null := rfl
  bool _ := rfl
  number _ := rfl
  text _ := rfl
  array items := by rw [Json.sorted, sortedItems_eq_map]
  object fields := by
    refine ⟨_, by rw [Json.sorted], ?_⟩
    rw [sortedFields_eq_map]
    exact List.sortBy_perm ..

theorem depthOfFields_eq_of_perm {fields fields' : List (String × Json)}
    (h : fields.Perm fields') : depthOfFields fields = depthOfFields fields' := by
  induction h with
  | nil => rfl
  | cons field _ ih => rw [depthOfFields, depthOfFields, ih]
  | swap field field' rest =>
      simp only [depthOfFields]
      exact Nat.max_left_comm ..
  | trans _ _ ih ih' => exact ih.trans ih'

mutual

/-- To sort the fields leaves the containers inside of one another. -/
theorem depth_sorted : (value : Json) → value.sorted.depth = value.depth
  | .null | .bool _ | .number _ | .text _ => rfl
  | .array items => by rw [Json.sorted, depth, depth, depth_sortedItems items]
  | .object fields => by
      rw [Json.sorted, depth, depth, depthOfFields_eq_of_perm (List.sortBy_perm ..),
        depth_sortedFields fields]

theorem depth_sortedItems :
    (items : List Json) → depthOfItems (sortedItems items) = depthOfItems items
  | [] => rfl
  | item :: rest => by
      rw [sortedItems, depthOfItems, depthOfItems, depth_sorted item, depth_sortedItems rest]

theorem depth_sortedFields :
    (fields : List (String × Json)) → depthOfFields (sortedFields fields) = depthOfFields fields
  | [] => rfl
  | (_, value) :: rest => by
      rw [sortedFields, depthOfFields, depthOfFields, depth_sorted value, depth_sortedFields rest]

end

/-- Fields with names of their own are found wherever they stand. -/
theorem lookup_eq_of_perm {fields fields' : List (String × Json)} (h : fields.Perm fields')
    (hnodup : (fields.map Prod.fst).Nodup) (name : String) :
    fields.lookup name = fields'.lookup name := by
  induction h with
  | nil => rfl
  | cons field _ ih =>
      obtain ⟨other, value⟩ := field
      rw [List.map_cons, List.nodup_cons] at hnodup
      rw [lookup_cons, lookup_cons, ih hnodup.2]
  | swap field field' rest =>
      obtain ⟨first, value⟩ := field
      obtain ⟨second, value'⟩ := field'
      have hne : second ≠ first := fun hsame =>
        (List.nodup_cons.mp hnodup).1 (hsame ▸ List.mem_cons_self ..)
      simp only [lookup_cons]
      -- The two names differ, so the one asked for is not both
      cases hfirst : name == first with
      | false => rfl
      | true =>
          have hsecond : (name == second) = false := by
            rw [beq_iff_eq.mp hfirst]
            exact beq_eq_false_iff_ne.mpr (Ne.symm hne)
          rw [hsecond]
          rfl
  | trans h _ ih ih' =>
      exact (ih hnodup).trans (ih' ((h.map _).nodup_iff.mp hnodup))

theorem lookup_map_snd (f : Json → Json) (fields : List (String × Json)) (name : String) :
    (fields.map fun field => (field.1, f field.2)).lookup name = (fields.lookup name).map f := by
  induction fields with
  | nil => rfl
  | cons field rest ih =>
      obtain ⟨other, value⟩ := field
      rw [List.map_cons, lookup_cons, lookup_cons, ih]
      cases name == other <;> rfl

namespace Read

variable {α : Type} {f : Json → Json} {read : Reader α} {encode : α → Json} {levels : Nat}
  {scope : Scope}

/-! ## Giving back -/

/-- The reader gives back a value from its written form with the fields arranged, if that has no
    more levels of containers than the given number. -/
def GivesBack (f : Json → Json) (read : Reader α) (levels : Nat) (json : Json) (value : α) : Prop :=
  (f json).depth ≤ levels → read (f json).draft = .ok value

/-- Where nothing is there to be arranged, a value is given back as it was written. -/
theorem Undoes.givesBack {value : α} (h : Undoes read encode levels)
    (hfixed : f (encode value) = encode value) :
    GivesBack f read levels (encode value) value := by
  intro hdepth
  rw [hfixed] at hdepth ⊢
  exact h value hdepth

/-- A count of 64 bits is given back. -/
theorem givesBack_size (hf : Arranges f) {n : Nat} (hn : n < UInt64.size) :
    GivesBack f size levels (.number n) n := by
  intro _
  have hlimit : UInt64.size = 18446744073709551616 := rfl
  have hhigh : (n : Int) ≤ 18446744073709551615 := by omega
  rw [hf.number, size, integer_draft "usize" (Int.natCast_nonneg n) hhigh (by decide) (by decide),
    Except.map, Int.toNat_natCast]

section Containers

variable (hf : Arranges f)
include hf

theorem givesBack_text (value : String) : GivesBack f text levels (.text value) value :=
  undoes_text.givesBack (hf.text value)

theorem givesBack_bool (value : Bool) : GivesBack f bool levels (.bool value) value :=
  undoes_bool.givesBack (hf.bool value)

theorem givesBack_int32 (value : Int32) : GivesBack f int32 levels (.number value.toInt) value :=
  undoes_int32.givesBack (hf.number _)

theorem givesBack_uint32 (value : UInt32) :
    GivesBack f uint32 levels (.number value.toNat) value :=
  undoes_uint32.givesBack (hf.number _)

theorem givesBack_list {values : List α}
    (hread : ∀ value ∈ values, GivesBack f read scope.inner.levels (encode value) value) :
    GivesBack f (list scope read) scope.levels (.array (values.map encode)) values := by
  intro hdepth
  rw [hf.array, List.map_map] at hdepth ⊢
  exact list_draft hdepth hread

theorem givesBack_texts (values : List String) :
    GivesBack f (list scope text) scope.levels (.texts values) values :=
  givesBack_list hf fun value _ => givesBack_text hf value

/-- A value that is not written as null is no null when read. -/
theorem givesBack_orNull {json : Json} {value : α} (hnull : json ≠ .null)
    (hread : GivesBack f read levels json value) :
    GivesBack f (orNull read) levels json (some value) := fun hdepth =>
  @orNull_draft α read (fun _ => f json) value (hf.ne_null hnull) (hread hdepth)

/-- Where no level is left, no list is written. -/
theorem givesBack_of_no_level (readAll : Reader (List α)) (values : List α) :
    GivesBack f readAll 0 (.array (values.map encode)) values := by
  intro hdepth
  rw [hf.array, depth] at hdepth
  omega

end Containers

/-! ## Records -/

/-- A record that holds the given fields arranged, within a number of levels. -/
structure Record.Carries (r : Record) (f : Json → Json) (fields : List (String × Json))
    (levels : Nat) : Prop where
  exists_holds : ∃ arranged, r.Holds arranged levels ∧
    ∀ name, arranged.lookup name = (fields.lookup name).map f

namespace Record.Carries

variable {r : Record} {fields : List (String × Json)} {name : String} {json : Json} {value : α}

/-- A field that is written is found. -/
theorem exists_find (h : r.Carries f fields levels) (hlookup : fields.lookup name = some json) :
    ∃ place, r.find name = some (place, (f json).draft) ∧ (f json).depth ≤ levels := by
  obtain ⟨arranged, hholds, hsame⟩ := h.exists_holds
  refine hholds.exists_find ?_
  rw [hsame, hlookup, Option.map_some]

theorem find_eq_none (h : r.Carries f fields levels) (hlookup : fields.lookup name = none) :
    r.find name = none := by
  obtain ⟨arranged, hholds, hsame⟩ := h.exists_holds
  refine hholds.find_eq_none ?_
  rw [hsame, hlookup, Option.map_none]

theorem required (h : r.Carries f fields levels) (hread : GivesBack f read levels json value)
    (hlookup : fields.lookup name = some json) : r.required name read = .done value := by
  obtain ⟨place, hfind, hdepth⟩ := h.exists_find hlookup
  rw [Record.required, hfind]
  exact congrArg (Attempt.ofExcept place) (hread hdepth)

theorem optional (h : r.Carries f fields levels) {absent : α}
    (hread : GivesBack f read levels json value) (hlookup : fields.lookup name = some json) :
    r.optional name absent read = .done value := by
  obtain ⟨place, hfind, hdepth⟩ := h.exists_find hlookup
  rw [Record.optional, hfind]
  exact congrArg (Attempt.ofExcept place) (hread hdepth)

theorem optional_absent (h : r.Carries f fields levels) {absent : α}
    (hlookup : fields.lookup name = none) : r.optional name absent read = .done absent := by
  rw [Record.optional, h.find_eq_none hlookup]

/-- A list that is left out where it is empty is empty where it is left out. -/
theorem optional_list (h : r.Carries f fields levels) {readAll : Reader (List α)}
    {values : List α}
    (hread : GivesBack f readAll levels (.array (values.map encode)) values)
    (hlookup : fields.lookup name =
      if values.isEmpty then none else some (.array (values.map encode))) :
    r.optional name [] readAll = .done values := by
  by_cases hempty : values.isEmpty
  · rw [if_pos hempty] at hlookup
    rw [h.optional_absent hlookup, List.isEmpty_iff.mp hempty]
  · rw [if_neg hempty] at hlookup
    exact h.optional hread hlookup

/-- A value that is left out where there is none is none where it is left out. -/
theorem optional_orNull (h : r.Carries f fields levels) (hf : Arranges f) {value : Option α}
    (hread : ∀ v ∈ value, GivesBack f read levels (encode v) v)
    (hnull : ∀ v, encode v ≠ .null) (hlookup : fields.lookup name = value.map encode) :
    r.optional name none (orNull read) = .done value := by
  cases value with
  | none => exact h.optional_absent hlookup
  | some v => exact h.optional (givesBack_orNull hf (hnull v) (hread v rfl)) hlookup

/-- A value that is written as null where there is none is none where null is written. -/
theorem nullable (h : r.Carries f fields levels) (hf : Arranges f) {value : Option α}
    (hread : ∀ v ∈ value, GivesBack f read levels (encode v) v)
    (hnull : ∀ v, encode v ≠ .null)
    (hlookup : fields.lookup name = some (Json.orNull encode value)) :
    r.nullable name read = .done value := by
  obtain ⟨place, hfind, hdepth⟩ := h.exists_find hlookup
  have hfound : r.nullable name read =
      .ofExcept place (orNull read (f (Json.orNull encode value)).draft) := by
    rw [Record.nullable, hfind]
  have hback : GivesBack f (orNull read) levels (Json.orNull encode value) value := by
    cases value with
    | none =>
        rw [Json.orNull, GivesBack, hf.null]
        exact fun _ => rfl
    | some v => exact givesBack_orNull hf (hnull v) (hread v rfl)
  rw [hfound, hback hdepth]
  rfl

end Record.Carries

/-- A record is read from an object that has its fields, in any order and among others. -/
theorem givesBack_record_among (hf : Arranges f) {expected : String} {known : List String}
    {build : Record → Attempt α} {fields : List (String × Json)} {value : α} (names : List String)
    (hnames : (fields.map Prod.fst).Sublist names) (hnodup : names.Nodup)
    (hbuild : ∀ r : Record, r.Carries f fields scope.inner.levels → build r = .done value) :
    GivesBack f (record scope expected known build) scope.levels (.object fields) value := by
  intro hdepth
  obtain ⟨arranged, harranged, hperm⟩ := hf.object fields
  rw [harranged] at hdepth ⊢
  have hmap : (fields.map fun field => (field.1, f field.2)).map Prod.fst =
      fields.map Prod.fst := by
    rw [List.map_map]
    rfl
  have hdistinct : (arranged.map Prod.fst).Nodup := by
    rw [(hperm.map Prod.fst).nodup_iff, hmap]
    exact hnodup.sublist hnames
  -- So each field is found in the arranged object as it was written, but for its own arrangement
  have hlookup : ∀ name, arranged.lookup name = (fields.lookup name).map f := fun name => by
    rw [lookup_eq_of_perm hperm hdistinct, lookup_map_snd]
  exact record_draft_among hdepth hdistinct fun r hr => hbuild r ⟨arranged, hr, hlookup⟩

/-- A record is read from an object that has its fields in any order. -/
theorem givesBack_record (hf : Arranges f) {expected : String} {known : List String}
    {build : Record → Attempt α} {fields : List (String × Json)} {value : α}
    (hnames : (fields.map Prod.fst).Sublist known) (hnodup : known.Nodup)
    (hbuild : ∀ r : Record, r.Carries f fields scope.inner.levels → build r = .done value) :
    GivesBack f (record scope expected known build) scope.levels (.object fields) value :=
  givesBack_record_among hf known hnames hnodup hbuild

/-! ## Variants -/

/-- A variant is read from its name and what follows. -/
theorem givesBack_variant (hf : Arranges f) {variants : Variants α} {name : String} {json : Json}
    {payload : Payload α} {value : α} (hlookup : variants.lookup name = some payload)
    (hpayload : GivesBack f (payload.ofMember scope) scope.inner.levels json value) :
    GivesBack f (variant scope variants) scope.levels (.object [(name, json)]) value := by
  intro hdepth
  obtain ⟨arranged, harranged, hperm⟩ := hf.object [(name, json)]
  have hone : arranged = [(name, f json)] := List.perm_singleton.mp hperm
  rw [harranged, hone] at hdepth ⊢
  refine variant_object hdepth hlookup (hpayload ?_)
  rw [depth, depthOfFields, depthOfFields] at hdepth
  rw [Scope.levels_inner]
  omega

/-- What follows the name of a variant with fields is their object. -/
theorem givesBack_fields (hf : Arranges f) {fields : List (String × Json)} {value : α}
    (hread : GivesBack f read levels (.object fields) value) :
    GivesBack f (Payload.ofMember scope (.fields read)) levels (.object fields) value := by
  intro hdepth
  have hback := hread hdepth
  obtain ⟨arranged, harranged, -⟩ := hf.object fields
  rw [harranged] at hback ⊢
  exact hback

/-- What follows the name of a variant with a single value is made into the variant. -/
theorem givesBack_single {β : Type} {json : Json} {value : β} {readValue : Reader β}
    (make : β → α) (hread : GivesBack f readValue levels json value) :
    GivesBack f (Payload.ofMember scope (.single fun draft => (readValue draft).map make)) levels
      json (make value) := by
  intro hdepth
  rw [Payload.ofMember, hread hdepth]
  rfl

end Read
end Wiring.Json
