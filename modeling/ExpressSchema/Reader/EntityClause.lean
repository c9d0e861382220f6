/-
# Reading entities

The clauses of an entity declaration: its name, its place among supertypes and subtypes, its
attributes and inverses, and the rules on them.  Of the rules only those on uniqueness are read.
-/
import ExpressSchema.Reader.State
import ExpressSchema.Schema
import ExpressSchema.Token

namespace ExpressSchema
namespace State

/-- The word that ends an entity declaration. -/
def entityEnd : String := "END_ENTITY;"

/-- Where a token leads that leaves a clause of an entity wherever it is met. -/
def leaveClause? (entity : EntityId) (token : Token) : Option State :=
  if token.is entityEnd then some topLevel
  else if token.is "SUBTYPE" then some (subtypeOf entity)
  else none

/-- Where a token leads that leaves a uniqueness rule wherever it is met. -/
def leaveUnique? (entity : EntityId) (token : Token) : Option State :=
  if token.is "WHERE" then some (domainRules entity) else leaveClause? entity token

/-! ## Name and clauses -/

/-- The name of an entity. -/
def readEntityName (token : Token) (w : Workspace) : State × Workspace :=
  let name := String.ofList (Text.dropEnd token ';')
  let declared := w.declareEntity name
  (entityBody declared.1, declared.2.record (.entityOpened name declared.1))

/-- A token between the clauses of an entity: a word that opens a clause, or the name of an
attribute. -/
def readEntityBody (entity : EntityId) (token : Token) (w : Workspace) : State × Workspace :=
  if token.is "SUBTYPE" then (subtypeOf entity, w)
  else if token.is "SUPERTYPE" then (subtypeClause entity, w)
  else if token.is "ABSTRACT" then
    (subtypeClause entity, w.modifyEntity entity fun e => { e with isAbstract := true })
  else if token.is "INVERSE" then (inverseName entity none, w)
  else if token.is "UNIQUE" then (uniqueLabel entity, w)
  else if token.is "WHERE" then (domainRules entity, w)
  else if token.is "DERIVE" then (derivedAttributes entity, w)
  else if token.is entityEnd then (topLevel, w)
  else
    let name := Name.ofProperty (String.ofList (Text.dropEnd token ':')) false
    (attributeRange entity { name := name }, w)

/-- A token among domain rules, which are not read. -/
def readDomainRules (entity : EntityId) (token : Token) (w : Workspace) : State × Workspace :=
  ((leaveClause? entity token).getD (domainRules entity), w)

/-- A token among derived attributes, which are not read. -/
def readDerivedAttributes (entity : EntityId) (token : Token) (w : Workspace) :
    State × Workspace :=
  match leaveClause? entity token with
  | some next => (next, w)
  | none =>
    if token.is "INVERSE" then (inverseName entity none, w)
    else if token.is "UNIQUE" then (uniqueLabel entity, w)
    else if token.is "WHERE" then (domainRules entity, w)
    else (derivedAttributes entity, w)

/-! ## Attributes -/

/-- Enter an attribute with its entity, and the built-in type it ranges over in the catalogue. -/
def addAttribute (entity : EntityId) (a : Attribute) (w : Workspace) : Workspace :=
  let w := match a.builtin with
    | some b => w.register b
    | none => w
  w.modifyEntity entity fun e => { e with attributes := e.attributes ++ [a] }

/-- The bounds of an attribute. -/
def readBounds (draft : AttributeDraft) (token : Token) (w : Workspace) :
    AttributeDraft × Workspace :=
  match Bounds.ofText? token with
  | none => (draft, w.report (.badBounds token.text draft.name))
  | some b =>
    match draft.restrict? b with
    | none => (draft, w.report (.boundsTooDeep token.text draft.name))
    | some draft => (draft, w)

/-- A token between the name of an attribute and the end of its range. -/
def readAttribute (entity : EntityId) (draft : AttributeDraft) (token : Token) (w : Workspace) :
    State × Workspace :=
  if token.is entityEnd then (topLevel, w)
  else if token.is "OPTIONAL" then (attributeRange entity { draft with isOptional := true }, w)
  else if token.is "ARRAY" then (attributeRange entity (draft.aggregate .array), w)
  else if token.is "SET" then (attributeRange entity (draft.aggregate .set), w)
  else if token.is "LIST" then
    (attributeRange entity (draft.aggregate .list),
      if draft.isListOfList then w.report (.listTooDeep draft.name entity) else w)
  else if token.head? = some '[' ∧ Text.endsWith token ']' then
    let read := readBounds draft token w
    (attributeRange entity read.1, read.2)
  else if token.is "SUBTYPE" then (subtypeOf entity, w)
  else if token.contains ';' then
    (entityBody entity, addAttribute entity (draft.finish entity token.beforeSemicolon) w)
  else (attributeRange entity draft, w)

/-! ## Supertypes and subtypes -/

/-- The token after `SUBTYPE`. -/
def readSubtypeOf (entity : EntityId) (token : Token) (w : Workspace) : State × Workspace :=
  if token.is "OF" then (firstSupertype entity, w) else (entityBody entity, w)

/-- Whether a token ends a list of supertypes. -/
def endsSupertypes (token : Token) : Bool := token.contains ')' || token.contains ';'

/-- A token up to the first supertype.  The first name is kept, further ones are reported. -/
def readFirstSupertype (entity : EntityId) (token : Token) (w : Workspace) : State × Workspace :=
  if token.is entityEnd then (topLevel, w)
  else
    match token.names with
    | [] => (firstSupertype entity, w)
    | first :: further =>
      let w := w.modifyEntity entity fun e => { e with supertype := some first }
      let w := w.reportAll (further.map fun name => .extraSupertype name entity)
      (if endsSupertypes token then entityBody entity else furtherSupertypes entity, w)

/-- A token among further supertypes. -/
def readFurtherSupertypes (entity : EntityId) (token : Token) (w : Workspace) :
    State × Workspace :=
  if token.is entityEnd then (topLevel, w)
  else
    let name := Name.bare token
    let w := if name.isEmpty then w
      else w.report (.extraSupertype (String.ofList name) entity)
    (if endsSupertypes token then entityBody entity else furtherSupertypes entity, w)

/-- List a name in a group of siblings. -/
def addSibling (set : SiblingSetId) (w : Workspace) (member : String) : Workspace :=
  let added := w.schema.siblings.add set member
  let w := w.update fun s => { s with siblings := added.2 }
  if added.1 then w else w.report (.siblingTwice member)

/-- A token among the members of a group of siblings. -/
def readSiblings (entity : EntityId) (set : SiblingSetId) (token : Token) (w : Workspace) :
    State × Workspace :=
  match leaveClause? entity token with
  | some next => (next, w)
  | none =>
    let w := token.names.foldl (addSibling set) w
    if endsSupertypes token then
      let w := w.modifyEntity entity fun e => { e with subtypes := some set }
      (if token.contains ';' then entityBody entity else subtypeClause entity, w)
    else (siblings entity set, w)

/-- The word that opens a group of siblings. -/
def oneOf : List Char := ['(', 'O', 'N', 'E', 'O', 'F']

/-- A token inside a clause about subtypes. -/
def readSubtypeClause (entity : EntityId) (token : Token) (w : Workspace) : State × Workspace :=
  match leaveClause? entity token with
  | some next => (next, w)
  | none =>
    if Text.sameLetters (token.take oneOf.length) oneOf then
      let opened := w.schema.siblings.openSet
      let w := w.update fun s => { s with siblings := opened.2 }
      match token.drop oneOf.length with
      | [] => (siblings entity opened.1, w)
      | rest => readSiblings entity opened.1 rest w
    else if token.contains ';' then (entityBody entity, w)
    else (subtypeClause entity, w)

/-! ## Inverses -/

/-- A token up to the colon of an inverse. -/
def readInverseName (entity : EntityId) (name : Option String) (token : Token) (w : Workspace) :
    State × Workspace :=
  match leaveClause? entity token with
  | some next => (next, w)
  | none =>
    if token.is "WHERE" then (domainRules entity, w)
    else if token.is "UNIQUE" then (uniqueLabel entity, w)
    else if token = [':'] then (inverseRange entity { name := name.getD "" }, w)
    else
      match Text.dropEnd? token ':' with
      | some head =>
        (inverseRange entity { name := Name.ofProperty (String.ofList head) false }, w)
      | none => (inverseName entity (some (Name.ofProperty token.text false)), w)

/-- The bounds of an inverse. -/
def readInverseBounds (draft : InverseDraft) (token : Token) (w : Workspace) :
    InverseDraft × Workspace :=
  match Bounds.ofText? token with
  | some b => ({ draft with cardinality := draft.cardinality.restrict b }, w)
  | none => (draft, w.report (.badInverseBounds token.text draft.name))

/-- A token between the colon and `FOR` of an inverse. -/
def readInverseRange (entity : EntityId) (draft : InverseDraft) (token : Token) (w : Workspace) :
    State × Workspace :=
  match leaveClause? entity token with
  | some next => (next, w)
  | none =>
    if token.is "SET" then (inverseRange entity { draft with isSet := true }, w)
    else if token.is "FOR" then (inverseFor entity draft, w)
    else if token.head? = some '[' then
      let read := readInverseBounds draft token w
      (inverseRange entity read.1, read.2)
    else if token.is "OF" then (inverseRange entity draft, w)
    else (inverseRange entity { draft with range := token.text }, w)

/-- A token after `FOR`, up to the one with the semicolon. -/
def readInverseFor (entity : EntityId) (draft : InverseDraft) (token : Token) (w : Workspace) :
    State × Workspace :=
  match leaveClause? entity token with
  | some next => (next, w)
  | none =>
    if token.contains ';' then
      let inverse := draft.finish entity token.beforeSemicolon
      (inverseName entity none,
        w.modifyEntity entity fun e => { e with inverses := e.inverses ++ [inverse] })
    else (inverseFor entity draft, w)

/-! ## Uniqueness rules -/

/-- A token up to the colon of a uniqueness rule. -/
def readUniqueLabel (entity : EntityId) (token : Token) (w : Workspace) : State × Workspace :=
  match leaveUnique? entity token with
  | some next => (next, w)
  | none =>
    if Text.endsWith token ':' then (uniqueName entity, w) else (uniqueLabel entity, w)

/-- Mark the attributes of this name as unique.  A rule over several names is not taken apart but
reported. -/
def markUnique (entity : EntityId) (token : Token) (w : Workspace) : Workspace :=
  if token.contains ',' then w.report (.uniqueOverSeveral entity token.text)
  else
    let name := String.ofList token.beforeSemicolon
    w.modifyEntity entity fun e =>
      { e with attributes := e.attributes.map fun a =>
          if a.name = name then { a with isUnique := true } else a }

/-- The token after the colon of a uniqueness rule. -/
def readUniqueName (entity : EntityId) (token : Token) (w : Workspace) : State × Workspace :=
  match leaveUnique? entity token with
  | some next => (next, w)
  | none => (uniqueLabel entity, markUnique entity token w)

end State
end ExpressSchema
