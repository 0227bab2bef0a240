/-
  Wiring.Proofs.Artifact.PropertyPaths

  The property records of generated binders, read back from their source. A binder is cut into
  lines, each of which may be the start of a record; what the records say of their properties is,
  from top to bottom, the tree of the binding in preorder. The path of a record is handed down from
  the section through the properties around it, so it spells out the way to the property.
-/

import Wiring.Proofs.Artifact.Lines
import Wiring.Proofs.Configuration.Traversal

namespace Wiring
namespace Artifact.Source

open Text (literal readLiteral rows unlines IsOneLine)

/-! ## Reading records -/

/-- What a property record says of the property itself. -/
structure PropertyRecord where
  name : String
  path : String
  nullable : Bool
  initOnly : Bool
deriving DecidableEq

/-- Reads a word: what stands behind it. -/
def readWord (word : String) (row : List Char) : Option (List Char) :=
  if word.toList.isPrefixOf row then some (row.drop word.toList.length) else none

/-- Reads yes or no. -/
def readFlag (row : List Char) : Option (Bool × List Char) :=
  ((readWord "true" row).map (true, ·)).or ((readWord "false" row).map (false, ·))

/-- Reads a line as the start of a property record, if it is one. -/
def readRecord (row : List Char) : Option PropertyRecord := do
  let row ← readWord "Property \x7b name: " (row.dropWhile (· = ' '))
  let (name, row) ← readLiteral row
  let row ← readWord ", path: " row
  let (path, row) ← readLiteral row
  let row ← readWord ", nullable: " row
  let (nullable, row) ← readFlag row
  let row ← readWord ", init_only: " row
  let (initOnly, row) ← readFlag row
  let _ ← readWord ", coercion: " row
  some ⟨name, path, nullable, initOnly⟩

/-- The record that starts on a line, if there is one. -/
def recordOn (text : String) : Option PropertyRecord := readRecord text.toList

/-- The property records in a source, from top to bottom. -/
def propertyRecords (source : String) : List PropertyRecord := (rows source).filterMap readRecord

theorem readWord_append (word : String) (rest : List Char) :
    readWord word (word.toList ++ rest) = some rest := by
  rw [readWord, if_pos (List.isPrefixOf_iff_prefix.mpr (List.prefix_append ..)), List.drop_left]

theorem readFlag_append (value : Bool) (rest : List Char) :
    readFlag ((flag value).toList ++ rest) = some (value, rest) := by
  cases value with
  | true =>
      show ((readWord "true" ("true".toList ++ rest)).map (true, ·)).or _ = _
      rw [readWord_append]
      rfl
  | false =>
      have hother : readWord "true" ("false".toList ++ rest) = none := rfl
      show ((readWord "true" ("false".toList ++ rest)).map (true, ·)).or
        ((readWord "false" ("false".toList ++ rest)).map (false, ·)) = _
      rw [hother, readWord_append]
      rfl

/-- The spaces at the start of a line are no part of what it says. -/
theorem dropWhile_line {level : Nat} {text : String} {first : Char} {rest : List Char}
    (htext : text.toList = first :: rest) (hspace : first ≠ ' ') :
    (line level text).toList.dropWhile (· = ' ') = text.toList := by
  rw [line, indent, String.toList_append, String.toList_ofList, htext,
    List.dropWhile_append_of_pos (by simp), List.dropWhile_cons_of_neg (by simpa using hspace)]

/-- A line that starts with another letter is no record. -/
theorem recordOn_line_eq_none {level : Nat} {text : String} {first : Char} {rest : List Char}
    (htext : text.toList = first :: rest) (hspace : first ≠ ' ') (hletter : first ≠ 'P') :
    recordOn (line level text) = none := by
  have hword : readWord "Property \x7b name: " text.toList = none := by
    rw [htext, readWord, if_neg]
    simp [List.isPrefixOf, Ne.symm hletter]
  rw [recordOn, readRecord, dropWhile_line htext hspace, hword]
  rfl

/-- A text that starts with a word starts with the first letter of the word. -/
theorem toList_word_append (first : Char) (others rest : List Char) :
    (String.ofList (first :: others)).toList ++ rest = first :: (others ++ rest) := by
  rw [String.toList_ofList, List.cons_append]

theorem recordOn_field_eq_none {level : Nat} {first : Char} {others : List Char} {value : String}
    (hspace : first ≠ ' ') (hletter : first ≠ 'P') :
    recordOn (field level (String.ofList (first :: others)) value) = none := by
  have hstart : ∃ rest, (String.ofList (first :: others) ++ ": " ++ value ++ ",").toList =
      first :: rest := by
    simp only [String.toList_append, List.append_assoc]
    exact ⟨_, toList_word_append ..⟩
  obtain ⟨rest, htext⟩ := hstart
  exact recordOn_line_eq_none htext hspace hletter

/-- The head of a record says what is read. -/
theorem recordOn_propertyHead (level : Nat) (path : String) (property : BoundProperty)
    (coercion : String) :
    recordOn (line level (propertyHead path property ++ coercion)) =
      some ⟨property.name, path, property.nullable, property.initOnly⟩ := by
  have hstart : ∃ rest, (propertyHead path property ++ coercion).toList = 'P' :: rest := by
    unfold propertyHead
    simp only [String.toList_append, List.append_assoc]
    exact ⟨_, toList_word_append ..⟩
  obtain ⟨rest, htext⟩ := hstart
  rw [recordOn, readRecord, dropWhile_line htext (by decide)]
  unfold propertyHead
  simp only [String.toList_append, List.append_assoc, readWord_append, Text.readLiteral_append,
    readFlag_append, Option.bind_eq_bind, Option.bind_some]

example : recordOn ("    Property \x7b name: \"Depth\", path: \"Parent:Child:\\u\x7be9\x7d\", " ++
      "nullable: false, init_only: true, coercion: Coercion::Boolean \x7d,") =
    some ⟨"Depth", "Parent:Child:é", false, true⟩ := by
  decide +kernel

/-- Where no line is several, the records of a source are those of its lines. -/
theorem propertyRecords_unlines {texts : List String} (h : ∀ text ∈ texts, IsOneLine text) :
    propertyRecords (unlines texts) = texts.filterMap recordOn := by
  induction texts with
  | nil => rfl
  | cons text rest ih =>
      rw [List.forall_mem_cons] at h
      have hrest := ih h.2
      unfold propertyRecords at hrest ⊢
      rw [Text.unlines_cons, Text.rows_append_lineFeed, Text.rows_of_oneLine h.1,
        List.filterMap_append, hrest]
      show [text].filterMap recordOn ++ rest.filterMap recordOn = _
      rw [← List.filterMap_append, List.singleton_append]

/-! ## Paths -/

/-- The path that the names of properties lead to. -/
def pathTo (root : String) (names : List String) : String := ":".intercalate (root :: names)

/-- The path of a property is handed on to those inside of it. -/
theorem propertyPath_pathTo (root : String) (around : List String) (property : BoundProperty) :
    propertyPath (pathTo root around) property = pathTo root (around ++ [property.name]) := by
  calc propertyPath (pathTo root around) property
      = ":".intercalate (root :: around) ++ ":" ++ ":".intercalate [property.name] := by
        rw [String.intercalate_singleton]
        rfl
    _ = pathTo root (around ++ [property.name]) :=
        (String.intercalate_append_of_ne_nil (List.cons_ne_nil _ _) (List.cons_ne_nil _ _)).symm

/-- What the record of a property in a section says. -/
def PropertyRecord.of (root : String) (placed : PlacedProperty) : PropertyRecord where
  name := placed.property.name
  path := root ++ ":" ++ ":".intercalate (placed.around ++ [placed.property.name])
  nullable := placed.property.nullable
  initOnly := placed.property.initOnly

theorem recordOn_head (level : Nat) (root : String) (placed : PlacedProperty) (coercion : String) :
    recordOn (line level (propertyHead (pathTo root (placed.around ++ [placed.property.name]))
      placed.property ++ coercion)) = some (PropertyRecord.of root placed) := by
  have hnames : placed.around ++ [placed.property.name] ≠ [] :=
    List.append_ne_nil_of_right_ne_nil _ (List.cons_ne_nil _ _)
  rw [recordOn_propertyHead, pathTo, String.intercalate_cons_of_ne_nil hnames]
  rfl

mutual

theorem recordsOn_coercionLines (level : Nat) (root : String) (placed : PlacedProperty) :
    ∀ coercion : Coercion,
      (coercionLines level (pathTo root (placed.around ++ [placed.property.name]))
        (propertyHead (pathTo root (placed.around ++ [placed.property.name])) placed.property)
        coercion).filterMap recordOn =
      PropertyRecord.of root placed ::
        (coercion.traversal (placed.around ++ [placed.property.name])).map (PropertyRecord.of root)
  | .nested type properties => by
    -- Between the head and the bracket that closes the record stand those of the class
    have hclose : recordOn (line level "]) \x7d,") = none :=
      recordOn_line_eq_none String.toList_ofList (by decide) (by decide)
    rw [coercionLines, Coercion.traversal, List.filterMap_append, String.append_assoc,
      String.append_assoc, List.filterMap_cons_some (recordOn_head ..),
      recordsOn_propertyLines (level + 1) root _ properties, List.filterMap_cons_none hclose,
      List.filterMap_nil, List.append_nil]
  | .passthrough | .numeric _ | .boolean | .temporal _ | .guid | .enum .. => by
    -- The record ends on the line that it starts on
    simp only [coercionLines, Coercion.traversal, String.append_assoc, List.map_nil]
    rw [List.filterMap_cons_some (recordOn_head ..), List.filterMap_nil]

/-- The lines of properties start their records in preorder, each under the path handed down. -/
theorem recordsOn_propertyLines (level : Nat) (root : String) (around : List String) :
    ∀ properties : List BoundProperty,
      (propertyLines level (pathTo root around) properties).filterMap recordOn =
        (BoundProperty.traversal around properties).map (PropertyRecord.of root)
  | [] => rfl
  | ⟨name, type, nullable, initOnly, coercion⟩ :: rest => by
    have hfirst := recordsOn_coercionLines level root
      ⟨around, ⟨name, type, nullable, initOnly, coercion⟩⟩ coercion
    rw [propertyLines, BoundProperty.traversal, List.filterMap_append, propertyPath_pathTo, hfirst,
      recordsOn_propertyLines level root around rest, List.map_cons, List.map_append]
    rfl

end

/-! ## Binders -/

/-- The source of the statement that binds a section. -/
def binder (mode : BindingMode) (b : Binding) : String := unlines (bindingStatement mode b)

/-- The source above the binders. -/
def aboveBinders (p : Plan) : String :=
  unlines (banner p .configuration ++ imports ++
    ["pub fn bind_configuration(binder: &mut dyn ConfigurationBinder) \x7b"])

/-- The comments above a binder. -/
def binderComments (o : Options) (b : Binding) : String :=
  unlines (breadcrumbs o.breadcrumbs b.moduleName b.boundType b.location none)

/-- The binders stand one after the other, each below its comments. -/
theorem text_configuration (o : Options) (p : Plan) :
    text o p .configuration = aboveBinders p ++
      String.join (p.bindings.map fun b => binderComments o b ++ binder p.mode b) ++ "\x7d\n" := by
  have hlines : banner p .configuration ++ body o p .configuration =
      banner p .configuration ++ imports ++
        ["pub fn bind_configuration(binder: &mut dyn ConfigurationBinder) \x7b"] ++
        (p.bindings.flatMap fun b =>
          breadcrumbs o.breadcrumbs b.moduleName b.boundType b.location none ++
            bindingStatement p.mode b) ++ ["\x7d"] := by
    simp only [body, configurationBinding, List.append_assoc, List.cons_append, List.nil_append]
  have hentry : ∀ b : Binding, unlines
      (breadcrumbs o.breadcrumbs b.moduleName b.boundType b.location none ++
        bindingStatement p.mode b) = binderComments o b ++ binder p.mode b :=
    fun b => Text.unlines_append ..
  have hclose : unlines ["\x7d"] = "\x7d\n" := rfl
  rw [text, hlines, Text.unlines_append, Text.unlines_append, Text.unlines_flatMap, hclose,
    aboveBinders]
  simp only [hentry]

/-- The records of a source are the properties of a binding in preorder, each under the path that
    leads to it, and these are all that lies in the tree of the binding. -/
structure Addresses (source : String) (b : Binding) : Prop where
  records : propertyRecords source = b.traversal.map (PropertyRecord.of b.path)
  complete : ∀ placed, placed ∈ b.traversal ↔ placed.property.LiesIn placed.around b.properties

/-- Only the property records of a binder are read as such. -/
theorem filterMap_recordOn_bindingStatement (b : Binding) :
    (bindingStatement .generated b).filterMap recordOn =
      (propertyLines 3 b.path b.properties).filterMap recordOn := by
  have hline : ∀ {level : Nat} {first : Char} {others : List Char}, first ≠ ' ' → first ≠ 'P' →
      recordOn (line level (String.ofList (first :: others))) = none := fun hspace hletter =>
    recordOn_line_eq_none String.toList_ofList hspace hletter
  unfold bindingStatement
  simp only [List.filterMap_append]
  -- The lines above the records and below them, one after the other
  rw [List.filterMap_cons_none (hline (by decide) (by decide)),
    List.filterMap_cons_none (recordOn_field_eq_none (by decide) (by decide)),
    List.filterMap_cons_none (recordOn_field_eq_none (by decide) (by decide)),
    List.filterMap_cons_none (recordOn_field_eq_none (by decide) (by decide)),
    List.filterMap_cons_none (recordOn_field_eq_none (by decide) (by decide)),
    List.filterMap_cons_none (recordOn_field_eq_none (by decide) (by decide)),
    List.filterMap_cons_none (hline (by decide) (by decide)),
    List.filterMap_cons_none (hline (by decide) (by decide)),
    List.filterMap_cons_none (hline (by decide) (by decide)),
    List.filterMap_nil, List.nil_append, List.append_nil]

theorem addresses_binder (b : Binding) : Addresses (binder .generated b) b where
  records := by
    have hpath : pathTo b.path [] = b.path := String.intercalate_singleton
    have hproperties := recordsOn_propertyLines 3 b.path [] b.properties
    rw [hpath] at hproperties
    rw [binder, propertyRecords_unlines fun text => isOneLine_of_mem_bindingStatement,
      filterMap_recordOn_bindingStatement, hproperties, Binding.traversal]
  complete := by
    intro placed
    rw [Binding.traversal, BoundProperty.mem_traversal_iff]
    simp

/-- In generated mode, the source of the configuration has a binder for each binding, whose records
    address the properties of the binding. -/
theorem binders_address_properties (o : Options) (p : Plan) (hmode : p.mode = .generated) :
    text o p .configuration = aboveBinders p ++
        String.join (p.bindings.map fun b => binderComments o b ++ binder p.mode b) ++ "\x7d\n" ∧
      ∀ b ∈ p.bindings, Addresses (binder p.mode b) b := by
  refine ⟨text_configuration o p, fun b _ => ?_⟩
  rw [hmode]
  exact addresses_binder b

/-- A plan with the binding of options that hold others, with a property behind them. -/
def parentPlan : Plan where
  current := "App"
  mode := .generated
  bindings := [{
    boundType := "App.ParentOptions"
    moduleName := "App"
    path := "Parent"
    instanceName := none
    validateOnStart := false
    validator := none
    properties := [
      ⟨"Name", .string, true, false, .passthrough⟩,
      ⟨"Child", .ofClass "App.ChildOptions", false, false,
        .nested "App.ChildOptions" [⟨"Depth", .ofPrimitive "int", false, true, .numeric "int"⟩]⟩,
      ⟨"Size", .ofPrimitive "int", false, false, .numeric "int"⟩]
    needsConstructor := false
    propertyTypes := ["App.ChildOptions", "int", "string"]
    location := none }]

theorem parentPlan_addresses_properties :
    parentPlan.mode = .generated ∧
      ∀ b ∈ parentPlan.bindings, Addresses (binder parentPlan.mode b) b :=
  ⟨rfl, (binders_address_properties {} parentPlan rfl).2⟩

end Artifact.Source
end Wiring
