/-
  Wiring.Proofs.Json.Draft

  Assembling the tokens of a written value. The draft that comes out is the one that the value
  itself tells, and nothing is left behind it.
-/

import Wiring.Proofs.Json.Token

namespace Wiring.Json

namespace Draft

/-! ## Delivering a value -/

/-- What is assembled once a value is complete: the value itself, where no container is open, and
    otherwise what the innermost container becomes with it. -/
def deliver (value : Draft) (stack : List Frame) (rest : List Token) : Assembled :=
  if stack.isEmpty then (value, !rest.isEmpty) else assemble .comma (takeIn value stack) rest

/-- A value is due behind an opening bracket as well, since none starts with a closing one. -/
theorem assemble_valueOrEnd (value : Json) (stack : List Frame) (rest : List Token) :
    assemble .valueOrEnd stack (tokensOf value ++ rest) =
      assemble .value stack (tokensOf value ++ rest) := by
  cases value with
  | null | bool _ | number _ | text _ => rfl
  | array items => cases items <;> rfl
  | object fields => cases fields <;> rfl

-- Along the value: its items and fields are assembled into the container that is innermost

mutual

/-- The tokens of a value are assembled to its draft. -/
theorem assemble_tokensOf :
    (value : Json) → (stack : List Frame) → (rest : List Token) →
      assemble .value stack (tokensOf value ++ rest) = deliver value.draft stack rest
  | .null, _, _ | .bool _, _, _ | .number _, _, _ | .text _, _, _ => rfl
  | .array [], _, _ | .object [], _, _ => rfl
  | .array (item :: items), stack, rest => by
      have hopen : ∀ tokens, assemble .value stack (.openArray :: tokens) =
          assemble .valueOrEnd (.items [] :: stack) tokens := fun _ => rfl
      have hfirst : ∀ tokens, deliver item.draft (.items [] :: stack) tokens =
          assemble .comma (.items [item.draft] :: stack) tokens := fun _ => rfl
      rw [tokensOf, List.cons_append, List.append_assoc, List.append_assoc, hopen,
        assemble_valueOrEnd, assemble_tokensOf item, hfirst, List.singleton_append,
        assemble_tokensOfItems items]
      rfl
  | .object ((name, value) :: fields), stack, rest => by
      have hopen : ∀ tokens,
          assemble .value stack (.openObject :: .text name :: .colon :: tokens) =
            assemble .value (.member [] (.text name) :: stack) tokens := fun _ => rfl
      have hfirst : ∀ tokens, deliver value.draft (.member [] (.text name) :: stack) tokens =
          assemble .comma (.members [(.text name, value.draft)] :: stack) tokens := fun _ => rfl
      rw [tokensOf, List.cons_append, List.cons_append, List.cons_append, List.append_assoc,
        List.append_assoc, hopen, assemble_tokensOf value, hfirst, List.singleton_append,
        assemble_tokensOfFields fields]
      rfl

/-- The items after the first are assembled behind those done. -/
theorem assemble_tokensOfItems :
    (items : List Json) → (done : List Draft) → (outer : List Frame) → (rest : List Token) →
      assemble .comma (.items done :: outer) (tokensOfItems items ++ .closeArray :: rest) =
        deliver (.array (done.reverse ++ draftItems items)) outer rest
  | [], done, outer, rest => by
      have hclose : assemble .comma (.items done :: outer) (.closeArray :: rest) =
          deliver (.array done.reverse) outer rest := rfl
      rw [tokensOfItems, draftItems, List.nil_append, List.append_nil, hclose]
  | item :: items, done, outer, rest => by
      have hcomma : ∀ tokens, assemble .comma (.items done :: outer) (.comma :: tokens) =
          assemble .value (.items done :: outer) tokens := fun _ => rfl
      have hnext : ∀ tokens, deliver item.draft (.items done :: outer) tokens =
          assemble .comma (.items (item.draft :: done) :: outer) tokens := fun _ => rfl
      rw [tokensOfItems, draftItems, List.cons_append, List.append_assoc, hcomma,
        assemble_tokensOf item, hnext, assemble_tokensOfItems items, List.reverse_cons,
        List.append_assoc, List.singleton_append]

/-- The fields after the first are assembled behind those done. -/
theorem assemble_tokensOfFields :
    (fields : List (String × Json)) → (done : List (Draft × Draft)) → (outer : List Frame) →
      (rest : List Token) →
      assemble .comma (.members done :: outer) (tokensOfFields fields ++ .closeObject :: rest) =
        deliver (.object (done.reverse ++ draftFields fields)) outer rest
  | [], done, outer, rest => by
      have hclose : assemble .comma (.members done :: outer) (.closeObject :: rest) =
          deliver (.object done.reverse) outer rest := rfl
      rw [tokensOfFields, draftFields, List.nil_append, List.append_nil, hclose]
  | (name, value) :: fields, done, outer, rest => by
      have hcomma : ∀ tokens,
          assemble .comma (.members done :: outer) (.comma :: .text name :: .colon :: tokens) =
            assemble .value (.member done (.text name) :: outer) tokens := fun _ => rfl
      have hnext : ∀ tokens, deliver value.draft (.member done (.text name) :: outer) tokens =
          assemble .comma (.members ((.text name, value.draft) :: done) :: outer) tokens :=
        fun _ => rfl
      rw [tokensOfFields, draftFields, List.cons_append, List.cons_append, List.cons_append,
        List.append_assoc, hcomma, assemble_tokensOf value, hnext,
        assemble_tokensOfFields fields, List.reverse_cons, List.append_assoc,
        List.singleton_append]

end

/-- A text with the tokens of a value is read as the draft of the value, with nothing behind it. -/
theorem ofText_eq_draft {text : String} {value : Json} (h : tokens text = tokensOf value) :
    ofText text = (value.draft, false) := by
  have hassembled := assemble_tokensOf value [] []
  rw [List.append_nil] at hassembled
  rw [ofText, h, hassembled]
  rfl

theorem ofText_pretty (value : Json) : ofText value.pretty = (value.draft, false) :=
  ofText_eq_draft (tokens_pretty value)

end Draft
end Wiring.Json
