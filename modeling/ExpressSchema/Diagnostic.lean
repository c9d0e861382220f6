/-
# Diagnostics

What is wrong in a schema never stops it from being read.  Each problem is reported as a
diagnostic, a kind with a text, next to the schema.
-/
import ExpressSchema.Id

namespace ExpressSchema

/-- The kind of a problem in a schema. -/
inductive DiagnosticKind where
  /-- A supertype is not declared. -/
  | unresolvedSuperclass
  /-- More than one supertype is listed; the first one counts. -/
  | multipleSupertypes
  /-- An entity is its own supertype, directly or through others. -/
  | inheritanceCycle
  /-- An inverse runs against no known property. -/
  | unresolvedInverse
  /-- Two inverses run against one property. -/
  | inverseConflict
  /-- A member of a select is no type, entity or built-in. -/
  | unresolvedSelectMember
  /-- An entity is listed in two groups of siblings. -/
  | duplicateSibling
  /-- An attribute is a list of lists of lists. -/
  | nestedListUnsupported
  /-- A uniqueness rule names several attributes. -/
  | multiNameUnique
  /-- Bounds cannot be read. -/
  | malformedCardinality
  /-- Two properties get the same name within the schema. -/
  | duplicateProperty
deriving DecidableEq, Repr

namespace DiagnosticKind

/-- All kinds of problems. -/
def all : List DiagnosticKind :=
  [unresolvedSuperclass, multipleSupertypes, inheritanceCycle, unresolvedInverse, inverseConflict,
    unresolvedSelectMember, duplicateSibling, nestedListUnsupported, multiNameUnique,
    malformedCardinality, duplicateProperty]

/-- The word for a kind of problem. -/
def label : DiagnosticKind → String
  | unresolvedSuperclass => "UnresolvedSuperclass"
  | multipleSupertypes => "MultipleSupertypes"
  | inheritanceCycle => "InheritanceCycle"
  | unresolvedInverse => "UnresolvedInverse"
  | inverseConflict => "InverseConflict"
  | unresolvedSelectMember => "UnresolvedSelectMember"
  | duplicateSibling => "DuplicateSibling"
  | nestedListUnsupported => "NestedListUnsupported"
  | multiNameUnique => "MultiNameUnique"
  | malformedCardinality => "MalformedCardinality"
  | duplicateProperty => "DuplicateProperty"

/-- The kind with this word. -/
def ofLabel? (word : String) : Option DiagnosticKind :=
  all.find? (·.label = word)

@[simp] theorem ofLabel?_label (k : DiagnosticKind) : ofLabel? k.label = some k := by
  cases k <;> decide +kernel

end DiagnosticKind

/-- A problem in a schema: its kind, and what there is to say about it. -/
structure Diagnostic where
  /-- The kind of problem. -/
  kind : DiagnosticKind
  /-- What there is to say about it. -/
  message : String
deriving DecidableEq, Repr

/-- A diagnostic on one line. -/
def Diagnostic.text (d : Diagnostic) : String := d.kind.label ++ ": " ++ d.message

/-- A problem met while a schema is read or its references are resolved. -/
inductive Problem where
  /-- The supertype of an entity is not declared. -/
  | undeclaredSupertype (supertype entity : String)
  /-- A further supertype is listed. -/
  | extraSupertype (supertype : String) (entity : EntityId)
  /-- The supertypes of an entity lead back to it. -/
  | supertypeLoop (entity : String)
  /-- An inverse runs against no known property. -/
  | unknownForward (inverse forward : String)
  /-- A second inverse runs against a property. -/
  | claimedTwice (property : String)
  /-- A member of a select is no type, entity or built-in. -/
  | unknownMember (member select : String)
  /-- An entity is listed in a second group of siblings. -/
  | siblingTwice (member : String)
  /-- An attribute is a list of lists of lists. -/
  | listTooDeep (attr : String) (entity : EntityId)
  /-- A uniqueness rule names several attributes. -/
  | uniqueOverSeveral (entity : EntityId) (start : String)
  /-- The bounds of an attribute cannot be read. -/
  | badBounds (bounds attr : String)
  /-- The bounds of an attribute belong to a level that is not kept. -/
  | boundsTooDeep (bounds attr : String)
  /-- The bounds of an inverse cannot be read. -/
  | badInverseBounds (bounds inverse : String)
  /-- Two properties get the same name within the schema. -/
  | nameTwice (property : String)
deriving DecidableEq, Repr

namespace Problem

/-- The kind of a problem. -/
def kind : Problem → DiagnosticKind
  | undeclaredSupertype .. => .unresolvedSuperclass
  | extraSupertype .. => .multipleSupertypes
  | supertypeLoop .. => .inheritanceCycle
  | unknownForward .. => .unresolvedInverse
  | claimedTwice .. => .inverseConflict
  | unknownMember .. => .unresolvedSelectMember
  | siblingTwice .. => .duplicateSibling
  | listTooDeep .. => .nestedListUnsupported
  | uniqueOverSeveral .. => .multiNameUnique
  | badBounds .. | boundsTooDeep .. | badInverseBounds .. => .malformedCardinality
  | nameTwice .. => .duplicateProperty

/-- What there is to say about a problem. -/
def message : Problem → String
  | undeclaredSupertype supertype entity =>
    "supertype " ++ supertype ++ " of " ++ entity ++ " is not declared"
  | extraSupertype supertype entity =>
    "supertype " ++ supertype ++ " of " ++ entity.text ++ " ignored"
  | supertypeLoop entity => "supertype chain of " ++ entity ++ " loops back to itself"
  | unknownForward inverse forward => inverse ++ " inverts unknown property " ++ forward
  | claimedTwice property => property ++ " is claimed by more than one inverse"
  | unknownMember member select =>
    member ++ " in select " ++ select ++ " is not a type, entity or built-in"
  | siblingTwice member => member ++ " already belongs to a ONEOF group"
  | listTooDeep attr entity =>
    "LIST OF LIST OF LIST attribute " ++ attr ++ " on " ++ entity.text
  | uniqueOverSeveral entity start =>
    "multi-attribute UNIQUE rule on " ++ entity.text ++ " starting at " ++ start
  | badBounds bounds attr => "bounds " ++ bounds ++ " on attribute " ++ attr
  | boundsTooDeep bounds attr =>
    "bounds " ++ bounds ++ " on attribute " ++ attr ++ " nest too deep"
  | badInverseBounds bounds inverse => "bounds " ++ bounds ++ " on inverse " ++ inverse
  | nameTwice property => property ++ " declared twice"

/-- A problem as a diagnostic. -/
def toDiagnostic (p : Problem) : Diagnostic := ⟨p.kind, p.message⟩

end Problem
end ExpressSchema
