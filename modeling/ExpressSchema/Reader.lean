/-
# The reader

`State.step` reads one token: it goes from state to state and enters finished parts into the
schema as soon as they are complete.  `State.feed` also notes in the log when the kind of state
changes, and the tokens of a line are fed one after the other.
-/
import ExpressSchema.Reader.EntityClause
import ExpressSchema.Reader.TypeClause

namespace ExpressSchema
namespace State

/-- Where a token leads that is met between declarations. -/
def ofTopLevel (token : Token) : State :=
  if token.is "TYPE" then typeName none
  else if token.is "ENTITY" then entityName
  else if token.is "FUNCTION" then skipping .function
  else if token.is "RULE" then skipping .rule
  else if token.is "SCHEMA" then schemaName
  else topLevel

/-- The name of the schema. -/
def readSchemaName (token : Token) (w : Workspace) : State × Workspace :=
  let name := token.beforeSemicolon
  (topLevel,
    if name.isEmpty then w else w.update fun s => { s with name := some (String.ofList name) })

/-- A token inside a body that is not read. -/
def readSkipped (body : SkippedBody) (token : Token) (w : Workspace) : State × Workspace :=
  (if token.is body.terminator then topLevel else skipping body, w)

/-- Read one token. -/
def step (s : State) (token : Token) (w : Workspace) : State × Workspace :=
  match s with
  | topLevel => (ofTopLevel token, w)
  | schemaName => readSchemaName token w
  | skipping body => readSkipped body token w
  | typeName type => readTypeName type token w
  | typeBody type => readTypeBody type token w
  | selectMembers type => readSelectMembers type token w
  | enumerationOf type => readEnumerationOf type token w
  | enumerationValues type => readEnumerationValues type token w
  | aggregateText type text => readAggregate type text token w
  | entityName => readEntityName token w
  | entityBody entity => readEntityBody entity token w
  | attributeRange entity draft => readAttribute entity draft token w
  | subtypeOf entity => readSubtypeOf entity token w
  | firstSupertype entity => readFirstSupertype entity token w
  | furtherSupertypes entity => readFurtherSupertypes entity token w
  | subtypeClause entity => readSubtypeClause entity token w
  | siblings entity set => readSiblings entity set token w
  | inverseName entity name => readInverseName entity name token w
  | inverseRange entity draft => readInverseRange entity draft token w
  | inverseFor entity draft => readInverseFor entity draft token w
  | uniqueLabel entity => readUniqueLabel entity token w
  | uniqueName entity => readUniqueName entity token w
  | domainRules entity => readDomainRules entity token w
  | derivedAttributes entity => readDerivedAttributes entity token w

/-- Read one token, noting a change of the kind of state in the log. -/
def feed (s : State) (token : Token) (w : Workspace) : State × Workspace :=
  let read := s.step token w
  (read.1,
    if s.label = read.1.label then read.2
    else read.2.record (.moved s.label read.1.label token))

/-- Read several tokens. -/
def feedAll (s : State) (tokens : List Token) (w : Workspace) : State × Workspace :=
  tokens.foldl (fun p token => p.1.feed token p.2) (s, w)

/-- Read the tokens of a line. -/
def feedLine (s : State) (line : String) (w : Workspace) : State × Workspace :=
  s.feedAll (Token.ofLine line) w

@[simp] theorem feedAll_nil (s : State) (w : Workspace) : s.feedAll [] w = (s, w) := rfl

@[simp] theorem feedAll_cons (s : State) (token : Token) (tokens : List Token) (w : Workspace) :
    s.feedAll (token :: tokens) w = (s.feed token w).1.feedAll tokens (s.feed token w).2 := rfl

theorem feedAll_append (s : State) (xs ys : List Token) (w : Workspace) :
    s.feedAll (xs ++ ys) w = (s.feedAll xs w).1.feedAll ys (s.feedAll xs w).2 := by
  simp [feedAll]

end State
end ExpressSchema
