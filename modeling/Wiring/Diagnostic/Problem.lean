/-
  Wiring.Diagnostic.Problem

  The problems that a build may have, each with a stable code, a severity and the template of its
  message.
-/

namespace Wiring

/-- How severe a diagnostic is. -/
inductive Severity where
  | error
  | warning
  | info
deriving DecidableEq

namespace Severity

/-- The place of a severity, the most severe first. -/
def rank : Severity → Nat
  | .error => 0
  | .warning => 1
  | .info => 2

/-- The word in front of a message. -/
def word : Severity → String
  | .error => "error"
  | .warning => "warning"
  | .info => "info"

end Severity

/-- What a diagnostic reports. -/
inductive Problem where
  /-- An eligible type cannot be reached from generated code. -/
  | inaccessibleCandidate
  /-- A referenced module holds plugins but takes no part in the build. -/
  | moduleNotParticipating
  /-- A decorator has no constructor that takes what it decorates. -/
  | decoratorMissingInner
  /-- A configuration type has no parameterless constructor and cannot be given one. -/
  | configurationTypeNotExtensible
  /-- There is a validator, but the binding does not validate on start. -/
  | validatorUnused
  /-- An open decorator names a closed target. -/
  | openDecoratorTargetClosed
  /-- A type with interceptors exposes no interface. -/
  | interceptedWithoutInterface
  /-- A factory has no argument to ask for. -/
  | factoryUnnecessary
  /-- A decorator is of a type without instances. -/
  | decoratorNotConstructible
deriving DecidableEq

/-- A piece of a template: words, or the place of an argument. -/
inductive Piece where
  | words (text : String)
  | hole (index : Nat)
deriving DecidableEq

/-- The text of a message with places for its arguments. -/
abbrev Template := List Piece

/-- How the place of an argument is written. -/
def placeholder (index : Nat) : String := "\x7b" ++ toString index ++ "\x7d"

/-- A template with its places written out. -/
def Template.text (template : Template) : String :=
  String.join <| template.map fun
    | .words text => text
    | .hole index => placeholder index

namespace Problem

/-- Every problem, in the order of the codes. -/
def all : List Problem :=
  [.inaccessibleCandidate, .moduleNotParticipating, .decoratorMissingInner,
   .configurationTypeNotExtensible, .validatorUnused, .openDecoratorTargetClosed,
   .interceptedWithoutInterface, .factoryUnnecessary, .decoratorNotConstructible]

/-- The place of a problem among all problems. -/
def rank : Problem → Nat
  | .inaccessibleCandidate => 0
  | .moduleNotParticipating => 1
  | .decoratorMissingInner => 2
  | .configurationTypeNotExtensible => 3
  | .validatorUnused => 4
  | .openDecoratorTargetClosed => 5
  | .interceptedWithoutInterface => 6
  | .factoryUnnecessary => 7
  | .decoratorNotConstructible => 8

/-- The stable code. -/
def code (p : Problem) : String := "DI000" ++ toString (p.rank + 1)

/-- The severity of every diagnostic of the problem. -/
def severity : Problem → Severity
  | .inaccessibleCandidate => .error
  | .factoryUnnecessary => .info
  | _ => .warning

/-- The template of the message. -/
def template : Problem → Template
  | .inaccessibleCandidate =>
    [.words "Type '", .hole 0, .words "' in module '", .hole 1,
     .words ("' is eligible for registration but is not publicly reachable from " ++
       "generated code")]
  | .moduleNotParticipating =>
    [.words "Module '", .hole 0, .words "' contains plugin type '", .hole 1, .words "' (",
     .hole 2,
     .words (" in total) but does not opt in to graph generation; none of its types " ++
       "will be scanned")]
  | .decoratorMissingInner =>
    [.words "Decorator '", .hole 0, .words "' targets '", .hole 1,
     .words "' but has no constructor accepting '", .hole 1, .words "'"]
  | .configurationTypeNotExtensible =>
    [.words "Configuration type '", .hole 0,
     .words ("' has no parameterless constructor and is not open for extension; binding " ++
       "code may not compile")]
  | .validatorUnused =>
    [.words "Configuration type '", .hole 0, .words "' has validator '", .hole 1,
     .words "' but binding '", .hole 2, .words "' does not validate on start"]
  | .openDecoratorTargetClosed =>
    [.words "Open decorator '", .hole 0, .words "' targets '", .hole 1,
     .words "', which is not an open generic interface"]
  | .interceptedWithoutInterface =>
    [.words "Type '", .hole 0,
     .words ("' declares interceptors but exposes no interface to proxy; it is registered " ++
       "without interception")]
  | .factoryUnnecessary =>
    [.words "Factory source '", .hole 0,
     .words "' has no runtime arguments; it could be registered directly"]
  | .decoratorNotConstructible =>
    [.words "Decorator '", .hole 0, .words "' targets '", .hole 1,
     .words "' but is not a concrete class; it is not applied"]

end Problem
end Wiring
