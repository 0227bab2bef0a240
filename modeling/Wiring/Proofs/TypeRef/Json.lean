/-
  Wiring.Proofs.TypeRef.Json

  Reading back a reference, whatever the order of its fields. A reference with arguments takes two
  levels of containers, its own and that of the list of its arguments, so the reader goes down two
  levels at a time.
-/

import Wiring.Proofs.Json.Arrangement
import Wiring.TypeRef.Json

namespace Wiring

open Json.Read (GivesBack Undoes)

theorem TypeKind.undoes_choice (scope : Json.Scope) (levels : Nat) :
    Undoes (Json.Read.choice scope name all) (fun kind => .text kind.name) levels :=
  Json.Read.undoes_choice fun kind => by cases kind <;> rfl

namespace TypeRef

/-! ## The written form -/

theorem toJsonAll_eq_map (refs : List TypeRef) : toJsonAll refs = refs.map toJson := by
  induction refs with
  | nil => rw [toJsonAll, List.map_nil]
  | cons ref rest ih => rw [toJsonAll, List.map_cons, ih]

/-- The fields of a written reference. -/
def jsonFields (ref : TypeRef) : List (String × Json) :=
  [("name", .text ref.name), ("kind", .text ref.kind.name)] ++
    Json.fieldOfList "args" toJson ref.args ++
    (if ref.nullable then [("nullable", .bool true)] else [])

theorem toJson_eq (ref : TypeRef) : ref.toJson = .object ref.jsonFields := by
  obtain ⟨name, kind, args, nullable⟩ := ref
  cases args with
  | nil =>
      rw [toJson]
      rfl
  | cons arg rest =>
      rw [toJson, toJsonAll_eq_map]
      rfl

theorem toJson_ne_null (ref : TypeRef) : ref.toJson ≠ .null := by
  rw [toJson_eq]
  nofun

/-- A field that is written for yes and left out for no. -/
theorem names_nullable (nullable : Bool) :
    ((if nullable then [("nullable", Json.bool true)] else []).map Prod.fst).Sublist
      ["nullable"] := by
  cases nullable with
  | false => exact List.nil_sublist _
  | true => exact List.Sublist.refl _

theorem names_jsonFields (ref : TypeRef) :
    (ref.jsonFields.map Prod.fst).Sublist (["name", "kind"] ++ ["args"] ++ ["nullable"]) :=
  Json.names_append (Json.names_append (.refl _) (Json.names_fieldOfList ..)) (names_nullable _)

/-! ## Reading -/

section Reading

variable {f : Json → Json} (hf : Json.Arranges f)
include hf

/-- A reference is given back if its arguments are. -/
theorem givesBack_readWith {scope : Json.Scope} {readArgs : Json.Reader (List TypeRef)}
    {ref : TypeRef}
    (hargs : GivesBack f readArgs scope.inner.levels (.array (ref.args.map toJson)) ref.args) :
    GivesBack f (readWith scope readArgs) scope.levels ref.toJson ref := by
  rw [toJson_eq]
  refine Json.Read.givesBack_record hf ref.names_jsonFields (by decide) fun r hr => ?_
  have hname : r.required "name" Json.Read.text = .done ref.name :=
    hr.required (Json.Read.givesBack_text hf _) rfl
  have hkind : r.required "kind" (Json.Read.choice scope.inner TypeKind.name TypeKind.all) =
      .done ref.kind :=
    hr.required ((TypeKind.undoes_choice _ _).givesBack (hf.text _)) rfl
  have hargs : r.optional "args" [] readArgs = .done ref.args := by
    refine hr.optional_list hargs ?_
    rw [jsonFields, List.lookup_append, List.lookup_append, Json.lookup_fieldOfList]
    cases ref.nullable <;> exact Option.or_none ..
  have hnullable : r.optional "nullable" false Json.Read.bool = .done ref.nullable := by
    have hlookup : ref.jsonFields.lookup "nullable" =
        if ref.nullable then some (.bool true) else none := by
      rw [jsonFields, List.lookup_append, List.lookup_append, Json.lookup_fieldOfList]
      cases ref.nullable <;> rfl
    cases hnullable : ref.nullable with
    | false =>
        rw [hnullable] at hlookup
        exact hr.optional_absent hlookup
    | true =>
        rw [hnullable] at hlookup
        exact hr.optional (Json.Read.givesBack_bool hf true) hlookup
  rw [hname, hkind, hargs, hnullable]
  cases ref
  rfl

/-- The reader of references gives back every reference that fits the levels that are left. -/
theorem givesBack_readAt (atHand : Bool) :
    (levels : Nat) → (ref : TypeRef) → GivesBack f (readAt atHand levels) levels ref.toJson ref
  | levels + 2, ref => by
      -- One level is for the reference, the other for the list of its arguments
      have hargs : GivesBack f (Json.Read.list ⟨levels + 1, atHand⟩ (readAt atHand levels))
          (levels + 1) (.array (ref.args.map toJson)) ref.args :=
        Json.Read.givesBack_list hf fun arg _ => givesBack_readAt atHand levels arg
      exact givesBack_readWith hf hargs
  | 1, _ => givesBack_readWith hf (Json.Read.givesBack_of_no_level hf _ _)
  | 0, _ => givesBack_readWith hf (Json.Read.givesBack_of_no_level hf _ _)

theorem givesBack_read (scope : Json.Scope) (ref : TypeRef) :
    GivesBack f (read scope) scope.levels ref.toJson ref :=
  givesBack_readAt hf scope.atHand scope.levels ref

theorem givesBack_readAll (scope : Json.Scope) (refs : List TypeRef) :
    GivesBack f (Json.Read.list scope (read scope.inner)) scope.levels
      (.array (refs.map toJson)) refs :=
  Json.Read.givesBack_list hf fun ref _ => givesBack_read hf scope.inner ref

end Reading

theorem undoes_read (scope : Json.Scope) : Undoes (read scope) toJson scope.levels :=
  givesBack_read .id scope

end TypeRef
end Wiring
