/-
# States of the reader

The reader goes through schema text token by token and never looks ahead or back.  What it needs
to know of the past is its state: which clause of which declaration is open, and what has been
read of the part that is not yet finished.
-/
import ExpressSchema.Reader.Draft

namespace ExpressSchema

/-- A body whose text is not read. -/
inductive SkippedBody where
  /-- The body of a function. -/
  | function
  /-- The body of a rule. -/
  | rule
deriving DecidableEq, Repr

/-- The word that ends a body. -/
def SkippedBody.terminator : SkippedBody → String
  | function => "END_FUNCTION;"
  | rule => "END_RULE;"

/-- The clause in which the reader is. -/
inductive State where
  /-- Between declarations. -/
  | topLevel
  /-- After `SCHEMA`. -/
  | schemaName
  /-- Inside a body that is not read. -/
  | skipping (body : SkippedBody)
  /-- After `TYPE`, up to the equals sign; the type is known once its name is read. -/
  | typeName (type : Option TypeId)
  /-- At the start of the right-hand side of a type. -/
  | typeBody (type : TypeId)
  /-- Among the members of a select. -/
  | selectMembers (type : TypeId)
  /-- After `ENUMERATION`, up to `OF`. -/
  | enumerationOf (type : TypeId)
  /-- Among the values of an enumeration. -/
  | enumerationValues (type : TypeId)
  /-- Inside an aggregate on the right-hand side of a type, with its text so far. -/
  | aggregateText (type : TypeId) (text : String)
  /-- After `ENTITY`. -/
  | entityName
  /-- Between the clauses of an entity. -/
  | entityBody (entity : EntityId)
  /-- Between the name of an attribute and the end of its range. -/
  | attributeRange (entity : EntityId) (draft : AttributeDraft)
  /-- After `SUBTYPE`. -/
  | subtypeOf (entity : EntityId)
  /-- After `SUBTYPE OF`, up to the first supertype. -/
  | firstSupertype (entity : EntityId)
  /-- Among further supertypes. -/
  | furtherSupertypes (entity : EntityId)
  /-- Inside a clause about subtypes. -/
  | subtypeClause (entity : EntityId)
  /-- Among the members of a group of siblings. -/
  | siblings (entity : EntityId) (set : SiblingSetId)
  /-- Up to the colon of an inverse, with its name if that is read. -/
  | inverseName (entity : EntityId) (name : Option String)
  /-- Between the colon and `FOR` of an inverse. -/
  | inverseRange (entity : EntityId) (draft : InverseDraft)
  /-- After `FOR`. -/
  | inverseFor (entity : EntityId) (draft : InverseDraft)
  /-- Among uniqueness rules, up to the next colon. -/
  | uniqueLabel (entity : EntityId)
  /-- After the colon of a uniqueness rule. -/
  | uniqueName (entity : EntityId)
  /-- Among domain rules. -/
  | domainRules (entity : EntityId)
  /-- Among derived attributes. -/
  | derivedAttributes (entity : EntityId)
deriving DecidableEq, Repr

namespace State

instance : Inhabited State := ⟨topLevel⟩

/-- The word for the clause, as records show it. -/
def label : State → String
  | topLevel => "TopLevel"
  | schemaName => "SchemaName"
  | skipping _ => "Skip"
  | typeName _ => "TypeName"
  | typeBody _ => "TypeSwitch"
  | selectMembers _ => "TypeSelect"
  | enumerationOf _ => "TypeEnumeration"
  | enumerationValues _ => "TypeEnumerationValues"
  | aggregateText _ _ => "TypeCollection"
  | entityName => "EntityName"
  | entityBody _ => "EntityBody"
  | attributeRange _ _ => "Attribute"
  | subtypeOf _ => "Subtype"
  | firstSupertype _ => "SubtypeOf"
  | furtherSupertypes _ => "SubtypeList"
  | subtypeClause _ => "Supertype"
  | siblings _ _ => "OneOf"
  | inverseName _ _ => "InverseName"
  | inverseRange _ _ => "InverseRange"
  | inverseFor _ _ => "InverseFor"
  | uniqueLabel _ => "Unique"
  | uniqueName _ => "UniqueName"
  | domainRules _ => "Where"
  | derivedAttributes _ => "Derive"

end State
end ExpressSchema
