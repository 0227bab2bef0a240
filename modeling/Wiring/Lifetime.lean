/-
  Wiring.Lifetime

  How long a container keeps an instance of a service.
-/

import Wiring.Json.Reader

namespace Wiring

/-- Lifetimes, in the order in which they are counted. -/
inductive Lifetime where
  /-- One instance for the whole application. -/
  | singleton
  /-- One instance for each scope. -/
  | scoped
  /-- A new instance for each use. -/
  | transient
deriving DecidableEq

namespace Lifetime

/-- The name of a lifetime. -/
def name : Lifetime → String
  | .singleton => "Singleton"
  | .scoped => "Scoped"
  | .transient => "Transient"

/-- Every lifetime, in order. -/
def all : List Lifetime := [.singleton, .scoped, .transient]

/-- How often each lifetime occurs; those that do not occur count zero. -/
def histogram (lifetimes : List Lifetime) : List (Lifetime × Nat) :=
  all.map fun lifetime => (lifetime, lifetimes.count lifetime)

/-- A lifetime as JSON. -/
def toJson (lifetime : Lifetime) : Json := .text lifetime.name

/-- Reads a lifetime. -/
def read (scope : Json.Scope) : Json.Reader Lifetime := Json.Read.choice scope name all

end Lifetime
end Wiring
