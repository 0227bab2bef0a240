/-
  Wiring.Json.Draft

  A JSON text as far as it is JSON. Readers of such a text report the first fault in the order of
  the text, be it a fault of the notation or of the value; a draft therefore keeps everything up
  to the place where the notation breaks, and marks that place with `cut`.
-/

import Wiring.Json.Token
import Wiring.Json.Value

namespace Wiring.Json

/-- A value as read. The name of a member is a draft as well: where no string stands in its place
    it is what stands there, and the value is cut. -/
inductive Draft where
  | null
  | bool (value : Bool)
  | number (value : Numeral)
  | text (value : String)
  /-- A string that names half of a surrogate pair. -/
  | unpaired
  | array (items : List Draft)
  | object (members : List (Draft × Draft))
  /-- The notation breaks here. -/
  | cut

namespace Draft

mutual

/-- Whether the notation never breaks. -/
def isWhole : Draft → Bool
  | .array items => areWhole items
  | .object members => membersWhole members
  | .cut => false
  | .null | .bool _ | .number _ | .text _ | .unpaired => true

/-- Whether the notation never breaks in a list of items. -/
def areWhole : List Draft → Bool
  | [] => true
  | item :: rest => item.isWhole && areWhole rest

/-- Whether the notation never breaks in a list of members. -/
def membersWhole : List (Draft × Draft) → Bool
  | [] => true
  | (name, value) :: rest => name.isWhole && value.isWhole && membersWhole rest

end

/-! ## Assembling -/

/-- A container that is still open, with what it holds so far, last first. -/
inductive Frame where
  | items (done : List Draft)
  | members (done : List (Draft × Draft))
  /-- An object of which the value of the named member is due. -/
  | member (done : List (Draft × Draft)) (name : Draft)

/-- What the next token has to be. -/
inductive Due where
  | value
  /-- A value or the end of an array. -/
  | valueOrEnd
  | name
  /-- A name or the end of an object. -/
  | nameOrEnd
  | colon
  /-- A comma or the end of the innermost container. -/
  | comma

/-- The whole of which `inner` is the innermost part, when nothing follows it. -/
def close (inner : Draft) : List Frame → Draft
  | [] => inner
  | .items done :: outer => close (.array (inner :: done).reverse) outer
  | .members done :: outer => close (.object ((inner, .cut) :: done).reverse) outer
  | .member done name :: outer => close (.object ((name, inner) :: done).reverse) outer

/-- The draft of a text whose first fault is the next token. -/
def breakOff (stack : List Frame) : Draft := close .cut stack

/-- What a token would start as a value, as much as its first token says. -/
def ofFirstToken : Token → Draft
  | .null => .null
  | .bool value => .bool value
  | .number value => .number value
  | .text value => .text value
  | .unpaired => .unpaired
  | .openArray => .array []
  | .openObject => .object []
  | .closeArray | .closeObject | .comma | .colon | .bad => .cut

/-- A draft, and whether further tokens follow it. -/
abbrev Assembled := Draft × Bool

/-- What is due behind a value inside the given containers, which take it in. -/
def takeIn (value : Draft) : List Frame → List Frame
  | [] => []
  | .items done :: outer => .items (value :: done) :: outer
  | .members done :: outer => .members done :: outer
  | .member done name :: outer => .members ((name, value) :: done) :: outer

/-- Assembles tokens into a draft, with the open containers innermost first. -/
def assemble (due : Due) (stack : List Frame) : List Token → Assembled
  | [] => (breakOff stack, false)
  | token :: rest =>
    let deliver (value : Draft) (outer : List Frame) : Assembled :=
      if outer.isEmpty then (value, !rest.isEmpty)
      else assemble .comma (takeIn value outer) rest
    match due, token, stack with
    | .valueOrEnd, .closeArray, .items done :: outer => deliver (.array done.reverse) outer
    | .value, token, stack | .valueOrEnd, token, stack =>
      match token with
      | .openArray => assemble .valueOrEnd (.items [] :: stack) rest
      | .openObject => assemble .nameOrEnd (.members [] :: stack) rest
      | .closeArray | .closeObject | .comma | .colon | .bad => (breakOff stack, false)
      | token => deliver (ofFirstToken token) stack
    | .nameOrEnd, .closeObject, .members done :: outer => deliver (.object done.reverse) outer
    | .name, token, .members done :: outer | .nameOrEnd, token, .members done :: outer =>
      match token with
      | .text name => assemble .colon (.member done (.text name) :: outer) rest
      | .unpaired => assemble .colon (.member done .unpaired :: outer) rest
      | token => (close (ofFirstToken token) (.members done :: outer), false)
    | .colon, .colon, stack => assemble .value stack rest
    | .comma, .comma, .items done :: outer => assemble .value (.items done :: outer) rest
    | .comma, .closeArray, .items done :: outer => deliver (.array done.reverse) outer
    | .comma, .comma, .members done :: outer => assemble .name (.members done :: outer) rest
    | .comma, .closeObject, .members done :: outer => deliver (.object done.reverse) outer
    | _, _, stack => (breakOff stack, false)

/-- The draft of a text, and whether anything but white space follows the value. -/
def ofText (text : String) : Assembled := assemble .value [] (tokens text)

end Draft

/-! ## The draft of a written value -/

mutual

/-- The draft that reading a written value gives. -/
def draft : Json → Draft
  | .null => .null
  | .bool value => .bool value
  | .number value =>
    .number { negative := value < 0, whole := Nat.toDigits 10 value.natAbs }
  | .text value => .text value
  | .array items => .array (draftItems items)
  | .object fields => .object (draftFields fields)

/-- The drafts of items. -/
def draftItems : List Json → List Draft
  | [] => []
  | item :: rest => item.draft :: draftItems rest

/-- The drafts of fields. -/
def draftFields : List (String × Json) → List (Draft × Draft)
  | [] => []
  | (name, value) :: rest => (.text name, value.draft) :: draftFields rest

end

end Wiring.Json
