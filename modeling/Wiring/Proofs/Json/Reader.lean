/-
  Wiring.Proofs.Json.Reader

  Reading back what was written. A reader undoes a writer, within a number of levels, if it gives
  back every value whose written form has no more containers inside of one another. The lemmas here
  say so of the readers of scalars and lists, and how it comes to hold of records and variants: by
  looking up each field in the fields that are written.
-/

import Wiring.Json.Reader
import Wiring.Proofs.Json.Numeral

namespace Wiring.Json

/-! ## Levels of containers -/

mutual

/-- The number of containers in a value that enclose one another. -/
def depth : Json → Nat
  | .array items => depthOfItems items + 1
  | .object fields => depthOfFields fields + 1
  | .null | .bool _ | .number _ | .text _ => 0

/-- The largest depth among items. -/
def depthOfItems : List Json → Nat
  | [] => 0
  | item :: rest => max item.depth (depthOfItems rest)

/-- The largest depth among the values of fields. -/
def depthOfFields : List (String × Json) → Nat
  | [] => 0
  | (_, value) :: rest => max value.depth (depthOfFields rest)

end

theorem depth_le_of_mem {items : List Json} {item : Json} (h : item ∈ items) :
    item.depth ≤ depthOfItems items := by
  induction items with
  | nil => cases h
  | cons first rest ih =>
      rw [depthOfItems]
      rcases List.mem_cons.mp h with rfl | hrest
      · exact Nat.le_max_left ..
      · exact Nat.le_trans (ih hrest) (Nat.le_max_right ..)

theorem depth_le_of_lookup {fields : List (String × Json)} {name : String} {value : Json}
    (h : fields.lookup name = some value) : value.depth ≤ depthOfFields fields := by
  induction fields with
  | nil => cases h
  | cons field rest ih =>
      obtain ⟨other, first⟩ := field
      rw [depthOfFields]
      rw [List.lookup_cons] at h
      split at h
      · rw [← Option.some.inj h]
        exact Nat.le_max_left ..
      · exact Nat.le_trans (ih h) (Nat.le_max_right ..)

theorem draft_ne_null {value : Json} (h : value ≠ .null) : value.draft ≠ .null := by
  cases value with
  | null => exact absurd rfl h
  | bool _ | number _ | text _ | array _ | object _ => nofun

-- Along the value: nothing that is written breaks off

mutual

theorem isWhole_draft : (value : Json) → value.draft.isWhole = true
  | .null | .bool _ | .number _ | .text _ => rfl
  | .array items => by
      rw [draft, Draft.isWhole]
      exact areWhole_draftItems items
  | .object fields => by
      rw [draft, Draft.isWhole]
      exact membersWhole_draftFields fields

theorem areWhole_draftItems : (items : List Json) → Draft.areWhole (draftItems items) = true
  | [] => rfl
  | item :: rest => by
      rw [draftItems, Draft.areWhole, isWhole_draft item, areWhole_draftItems rest, Bool.and_self]

theorem membersWhole_draftFields :
    (fields : List (String × Json)) → Draft.membersWhole (draftFields fields) = true
  | [] => rfl
  | (name, value) :: rest => by
      rw [draftFields, Draft.membersWhole, isWhole_draft value, membersWhole_draftFields rest]
      rfl

end

namespace Scope

@[simp] theorem levels_inner (scope : Scope) : scope.inner.levels = scope.levels - 1 := rfl

theorem isSpent_eq_false {scope : Scope} (h : 0 < scope.levels) : scope.isSpent = false := by
  rw [isSpent, beq_eq_false_iff_ne]
  omega

end Scope

/-! ## Written fields -/

@[simp] theorem lookup_cons (name other : String) (value : Json) (rest : List (String × Json)) :
    List.lookup name ((other, value) :: rest) =
      bif name == other then some value else rest.lookup name := by
  rw [List.lookup_cons]
  cases name == other <;> rfl

@[simp] theorem lookup_fieldOf {α : Type} (name other : String) (encode : α → Json) (value : Option α) :
    (fieldOf other encode value).lookup name =
      bif name == other then value.map encode else none := by
  cases value with
  | none =>
      rw [Option.map_none, Bool.cond_self]
      rfl
  | some value =>
      rw [fieldOf, List.lookup_cons, List.lookup_nil, Option.map_some]
      cases name == other <;> rfl

@[simp] theorem lookup_fieldOfList {α : Type} (name other : String) (encode : α → Json)
    (values : List α) :
    (fieldOfList other encode values).lookup name =
      bif name == other then
        if values.isEmpty then none else some (.array (values.map encode))
      else none := by
  unfold fieldOfList
  cases values.isEmpty with
  | true =>
      rw [if_pos rfl, if_pos rfl, Bool.cond_self]
      rfl
  | false =>
      rw [if_neg Bool.false_ne_true, if_neg Bool.false_ne_true, List.lookup_cons, List.lookup_nil]
      cases name == other <;> rfl

/-- A field that may be left out has its name or none. -/
theorem names_fieldOf {α : Type} (name : String) (encode : α → Json) (value : Option α) :
    ((fieldOf name encode value).map Prod.fst).Sublist [name] := by
  cases value with
  | none => exact List.nil_sublist _
  | some value => exact List.Sublist.refl _

theorem names_fieldOfList {α : Type} (name : String) (encode : α → Json) (values : List α) :
    ((fieldOfList name encode values).map Prod.fst).Sublist [name] := by
  unfold fieldOfList
  split
  · exact List.nil_sublist _
  · exact List.Sublist.refl _

theorem names_append {fields fields' : List (String × Json)} {names names' : List String}
    (h : (fields.map Prod.fst).Sublist names) (h' : (fields'.map Prod.fst).Sublist names') :
    ((fields ++ fields').map Prod.fst).Sublist (names ++ names') := by
  rw [List.map_append]
  exact h.append h'

namespace Read

variable {α : Type} {read : Reader α} {encode : α → Json} {levels : Nat} {scope : Scope}

/-- A reader gives back every value whose written form has no more levels of containers than the
    given number. -/
def Undoes (read : Reader α) (encode : α → Json) (levels : Nat) : Prop :=
  ∀ value, (encode value).depth ≤ levels → read (encode value).draft = .ok value

/-! ## Scalars and lists -/

theorem undoes_text : Undoes text .text levels := fun _ _ => rfl

theorem undoes_bool : Undoes bool .bool levels := fun _ _ => rfl

/-- An integer in range is given back. -/
theorem integer_draft {low high value : Int} (expected : String) (hlow : low ≤ value)
    (hhigh : value ≤ high) (hmin : -9223372036854775808 ≤ low)
    (hmax : high < 18446744073709551616) :
    integer low high expected (Json.number value).draft = .ok value := by
  have hvalue : (Numeral.ofInt value).value = .integer value :=
    Numeral.value_ofInt (by omega) (by omega)
  have hdraft : (Json.number value).draft = .number (.ofInt value) := rfl
  rw [hdraft, integer, hvalue]
  exact if_pos ⟨hlow, hhigh⟩

theorem undoes_int32 : Undoes int32 (fun n : Int32 => .number n.toInt) levels := by
  intro n _
  have hlow : -2147483648 ≤ n.toInt := n.le_toInt
  have hhigh : n.toInt ≤ 2147483647 := Int.le_of_lt_add_one n.toInt_lt
  rw [int32, integer_draft "i32" hlow hhigh (by decide) (by decide), Except.map,
    Int32.ofInt_toInt]

theorem undoes_uint32 : Undoes uint32 (fun n : UInt32 => .number n.toNat) levels := by
  intro n _
  have hlow : (0 : Int) ≤ n.toNat := Int.natCast_nonneg _
  have hhigh : (n.toNat : Int) ≤ 4294967295 := by
    have hless : n.toNat < 4294967296 := n.toNat_lt
    omega
  rw [uint32, integer_draft "u32" hlow hhigh (by decide) (by decide), Except.map,
    Int.toNat_natCast, UInt32.ofNat_toNat]

/-- A value that is not written as null is no null when read. -/
theorem orNull_draft {value : α} (hnull : encode value ≠ .null)
    (hread : read (encode value).draft = .ok value) :
    orNull read (encode value).draft = .ok (some value) := by
  have hdraft := draft_ne_null hnull
  unfold orNull
  split
  · rename_i hwritten
    exact absurd hwritten hdraft
  · rw [hread]
    rfl

theorem mapM_draftItems {values : List α}
    (hread : ∀ value ∈ values, read (encode value).draft = .ok value) :
    (draftItems (values.map encode)).mapM read = .ok values := by
  induction values with
  | nil => rfl
  | cons value rest ih =>
      have hfirst := hread value (List.mem_cons_self ..)
      have hrest := ih fun value hvalue => hread value (List.mem_cons_of_mem _ hvalue)
      rw [List.map_cons, draftItems, List.mapM_cons, hfirst, hrest]
      rfl

/-- A list is given back if every entry that fits the levels inside of it is. -/
theorem list_draft {values : List α}
    (hdepth : (Json.array (values.map encode)).depth ≤ scope.levels)
    (hread : ∀ value ∈ values, (encode value).depth ≤ scope.inner.levels →
      read (encode value).draft = .ok value) :
    list scope read (Json.array (values.map encode)).draft = .ok values := by
  rw [depth] at hdepth
  have hspent : scope.isSpent = false := Scope.isSpent_eq_false (by omega)
  have hinner : ∀ value ∈ values, read (encode value).draft = .ok value := by
    intro value hvalue
    have hitem := depth_le_of_mem (List.mem_map_of_mem hvalue : encode value ∈ _)
    refine hread value hvalue ?_
    rw [Scope.levels_inner]
    omega
  rw [draft, list, hspent, if_neg Bool.false_ne_true]
  exact mapM_draftItems hinner

theorem undoes_list (hread : Undoes read encode scope.inner.levels) :
    Undoes (list scope read) (fun values => .array (values.map encode)) scope.levels :=
  fun _ hdepth => list_draft hdepth fun value _ => hread value

/-! ## Records -/

/-- A record that holds the given fields, within a number of levels. -/
structure Record.Holds (r : Record) (fields : List (String × Json)) (levels : Nat) : Prop where
  layout : r.layout = .named (draftFields fields)
  depth_le : depthOfFields fields ≤ levels

theorem findMember_draftFields (name : String) (place : Nat) (fields : List (String × Json)) :
    (findMember name place (draftFields fields)).map Prod.snd =
      (fields.lookup name).map draft := by
  induction fields generalizing place with
  | nil => rfl
  | cons field rest ih =>
      obtain ⟨other, value⟩ := field
      rw [draftFields, findMember, List.lookup_cons]
      by_cases hname : other = name
      · rw [if_pos hname, hname, beq_self_eq_true]
        rfl
      · have hother : (name == other) = false := beq_eq_false_iff_ne.mpr (Ne.symm hname)
        rw [if_neg hname, hother]
        exact ih (place + 1)

namespace Record.Holds

variable {r : Record} {fields : List (String × Json)} {name : String} {value : α}

theorem find_eq (h : r.Holds fields levels) (name : String) :
    (r.find name).map Prod.snd = (fields.lookup name).map draft := by
  rw [Record.find, h.layout]
  exact findMember_draftFields name 0 fields

/-- A field that is written is found. -/
theorem exists_find (h : r.Holds fields levels) {json : Json}
    (hlookup : fields.lookup name = some json) :
    ∃ place, r.find name = some (place, json.draft) ∧ json.depth ≤ levels := by
  have hfind := h.find_eq name
  rw [hlookup, Option.map_some, Option.map_eq_some_iff] at hfind
  obtain ⟨⟨place, found⟩, hfound, rfl⟩ := hfind
  exact ⟨place, hfound, Nat.le_trans (depth_le_of_lookup hlookup) h.depth_le⟩

theorem find_eq_none (h : r.Holds fields levels) (hlookup : fields.lookup name = none) :
    r.find name = none := by
  have hfind := h.find_eq name
  rw [hlookup, Option.map_none, Option.map_eq_none_iff] at hfind
  exact hfind

theorem required (h : r.Holds fields levels) (hread : Undoes read encode levels)
    (hlookup : fields.lookup name = some (encode value)) :
    r.required name read = .done value := by
  -- What is found is the written value, and it is no deeper than the record
  obtain ⟨place, hfind, hdepth⟩ := h.exists_find hlookup
  rw [Record.required, hfind]
  exact congrArg (Attempt.ofExcept place) (hread value hdepth)

theorem optional (h : r.Holds fields levels) {absent : α} (hread : Undoes read encode levels)
    (hlookup : fields.lookup name = some (encode value)) :
    r.optional name absent read = .done value := by
  obtain ⟨place, hfind, hdepth⟩ := h.exists_find hlookup
  rw [Record.optional, hfind]
  exact congrArg (Attempt.ofExcept place) (hread value hdepth)

theorem optional_absent (h : r.Holds fields levels) {absent : α}
    (hlookup : fields.lookup name = none) : r.optional name absent read = .done absent := by
  rw [Record.optional, h.find_eq_none hlookup]

/-- A list that is left out where it is empty is empty where it is left out. -/
theorem optional_list (h : r.Holds fields levels) {readAll : Reader (List α)}
    (hread : Undoes readAll (fun values => .array (values.map encode)) levels) {values : List α}
    (hlookup : fields.lookup name =
      if values.isEmpty then none else some (.array (values.map encode))) :
    r.optional name [] readAll = .done values := by
  by_cases hempty : values.isEmpty
  · rw [if_pos hempty] at hlookup
    rw [h.optional_absent hlookup, List.isEmpty_iff.mp hempty]
  · rw [if_neg hempty] at hlookup
    exact h.optional hread hlookup

/-- A value that is left out where there is none is none where it is left out. -/
theorem optional_orNull (h : r.Holds fields levels) (hread : Undoes read encode levels)
    (hnull : ∀ value, encode value ≠ .null) {value : Option α}
    (hlookup : fields.lookup name = value.map encode) :
    r.optional name none (orNull read) = .done value := by
  cases value with
  | none => exact h.optional_absent hlookup
  | some value =>
      obtain ⟨place, hfind, hdepth⟩ := h.exists_find hlookup
      rw [Record.optional, hfind]
      exact congrArg (Attempt.ofExcept place) (orNull_draft (hnull value) (hread value hdepth))

end Record.Holds

/-- Fields with names of their own are in order, whether they are known or not. -/
theorem checkMembers_draftFields {known seen : List String} {place : Nat}
    {fields : List (String × Json)} (hnodup : (fields.map Prod.fst).Nodup)
    (hfresh : ∀ name ∈ fields.map Prod.fst, name ∉ seen) :
    checkMembers known seen place (draftFields fields) = .done () := by
  induction fields generalizing seen place with
  | nil => rfl
  | cons field rest ih =>
      obtain ⟨name, value⟩ := field
      rw [List.map_cons, List.nodup_cons] at hnodup
      have hrest : ∀ other ∈ rest.map Prod.fst, other ∉ seen :=
        fun other hother => hfresh other (List.mem_cons_of_mem _ hother)
      rw [draftFields, checkMembers]
      split
      · have hnew : ¬ seen.contains name = true := fun hseen =>
          hfresh name (List.mem_cons_self ..) (List.contains_iff_mem.mp hseen)
        rw [if_neg hnew]
        refine ih hnodup.2 fun other hother hseen => ?_
        rcases List.mem_cons.mp hseen with rfl | hseen
        · exact hnodup.1 hother
        · exact hrest other hother hseen
      · rw [if_pos (isWhole_draft value)]
        exact ih hnodup.2 hrest

/-- A record is read from an object that has its fields, whatever other fields there are. -/
theorem record_draft_among {expected : String} {known : List String} {build : Record → Attempt α}
    {fields : List (String × Json)} {value : α} (hdepth : (Json.object fields).depth ≤ scope.levels)
    (hnodup : (fields.map Prod.fst).Nodup)
    (hbuild : ∀ r : Record, r.Holds fields scope.inner.levels → build r = .done value) :
    record scope expected known build (Json.object fields).draft = .ok value := by
  rw [depth] at hdepth
  have hspent : scope.isSpent = false := Scope.isSpent_eq_false (by omega)
  have hinner : depthOfFields fields ≤ scope.inner.levels := by
    rw [Scope.levels_inner]
    omega
  have hcheck : checkMembers known [] 0 (draftFields fields) = .done () :=
    checkMembers_draftFields hnodup fun _ _ => List.not_mem_nil
  -- The form of the object is in order, so the attempt at its fields counts
  rw [draft, record]
  simp only [Record.read, hspent, if_neg Bool.false_ne_true, Record.check, hcheck]
  rw [hbuild _ ⟨rfl, hinner⟩]
  rfl

/-- A record is read from its fields, written in the order in which they are known. -/
theorem record_draft {expected : String} {known : List String} {build : Record → Attempt α}
    {fields : List (String × Json)} {value : α} (hdepth : (Json.object fields).depth ≤ scope.levels)
    (hnames : (fields.map Prod.fst).Sublist known) (hknown : known.Nodup)
    (hbuild : ∀ r : Record, r.Holds fields scope.inner.levels → build r = .done value) :
    record scope expected known build (Json.object fields).draft = .ok value :=
  record_draft_among hdepth (hknown.sublist hnames) hbuild

/-! ## Variants -/

/-- A name among the choices is read as what it names. -/
theorem undoes_choice {name : α → String} {values : List α}
    (hlookup : ∀ value, (values.map fun other => (name other, Payload.unit other)).lookup
      (name value) = some (.unit value)) :
    Undoes (choice scope name values) (fun value => .text (name value)) levels := by
  intro value _
  rw [draft, choice, variant, Variants.find, hlookup]
  rfl

/-- The bare name of a variant is read as the variant. -/
theorem variant_text {variants : Variants α} {name : String} {value : α}
    (hlookup : variants.lookup name = some (.unit value)) :
    variant scope variants (Json.text name).draft = .ok value := by
  rw [draft, variant, Variants.find, hlookup]
  rfl

/-- A variant is read from its name and what follows. -/
theorem variant_object {variants : Variants α} {name : String} {json : Json}
    {payload : Payload α} {value : α}
    (hdepth : (Json.object [(name, json)]).depth ≤ scope.levels)
    (hlookup : variants.lookup name = some payload)
    (hpayload : payload.ofMember scope json.draft = .ok value) :
    variant scope variants (Json.object [(name, json)]).draft = .ok value := by
  rw [depth] at hdepth
  have hspent : scope.isSpent = false := Scope.isSpent_eq_false (by omega)
  rw [draft, draftFields, draftFields, variant, hspent, if_neg Bool.false_ne_true]
  simp only [List.length_singleton, bne_self_eq_false, Bool.and_false, if_neg Bool.false_ne_true,
    Variants.find, hlookup]
  change (payload.ofMember scope json.draft).bind _ = _
  rw [hpayload]
  rfl

end Read
end Wiring.Json
