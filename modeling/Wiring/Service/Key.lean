/-
  Wiring.Service.Key

  The keys under which a container knows a service: its type and its interfaces, and each of them
  again under every service key.
-/

import Wiring.Json.Reader

namespace Wiring

/-- A key of a registration. -/
structure RegistrationKey where
  /-- The type or the interface, as text. -/
  name : String
  isInterface : Bool
  /-- The service key of a keyed registration. -/
  serviceKey : Option String := none
deriving DecidableEq

namespace RegistrationKey

/-- A key as text. -/
def text (k : RegistrationKey) : String :=
  match k.serviceKey with
  | some key => k.name ++ "[" ++ key ++ "]"
  | none => k.name

/-- Keys without service key come first; among either, types come before interfaces. -/
def rank (k : RegistrationKey) : Nat :=
  (if k.serviceKey.isSome then 2 else 0) + if k.isInterface then 1 else 0

/-- The order of keys. -/
def order : RegistrationKey → RegistrationKey → Ordering :=
  compareLex (compareOn rank) <| compareLex (compareOn (·.name)) (compareOn (·.serviceKey))

/-- The type and the interfaces under one service key, or under none. -/
def under (typeName : String) (interfaces : List String) (serviceKey : Option String) :
    List RegistrationKey :=
  ⟨typeName, false, serviceKey⟩ :: interfaces.map fun name => ⟨name, true, serviceKey⟩

/-- All keys of a registration: the plain ones, then those under each service key. -/
def of (typeName : String) (interfaces serviceKeys : List String) : List RegistrationKey :=
  under typeName interfaces none ++
    serviceKeys.flatMap fun key => under typeName interfaces (some key)

/-! ## JSON -/

/-- The name of the variant of a key. -/
def variantName (isInterface isKeyed : Bool) : String :=
  (if isInterface then "Interface" else "Type") ++ if isKeyed then "Keyed" else ""

/-- A key as JSON. -/
def toJson (k : RegistrationKey) : Json :=
  match k.serviceKey with
  | none => .object [(variantName k.isInterface false, .text k.name)]
  | some key => .object [(variantName k.isInterface true, .texts [k.name, key])]

/-- The payload of a key without service key. -/
def plainPayload (isInterface : Bool) : Json.Read.Payload RegistrationKey :=
  .single fun draft => (Json.Read.text draft).map fun name => ⟨name, isInterface, none⟩

/-- The payload of a key with a service key: the name and the service key. -/
def keyedPayload (scope : Json.Scope) (isInterface : Bool) : Json.Read.Payload RegistrationKey :=
  let expected := "tuple variant Key::" ++ variantName isInterface true
  .tuple expected <|
    Json.Read.tuple scope expected (expected ++ " with 2 elements") ["name", "key"] fun r =>
      (fun name key => ⟨name, isInterface, some key⟩) <$> r.required "name" Json.Read.text
        <*> r.required "key" Json.Read.text

/-- Reads a key. -/
def read (scope : Json.Scope) : Json.Reader RegistrationKey :=
  Json.Read.variant scope
    [("Type", plainPayload false), ("Interface", plainPayload true),
     ("TypeKeyed", keyedPayload scope.inner false),
     ("InterfaceKeyed", keyedPayload scope.inner true)]

end RegistrationKey
end Wiring
