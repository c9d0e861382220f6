/-
# Outlines of schemas

An outline says clause by clause what a schema declares, in words that can be told from keywords.
It can be printed, and it says what the schema is: entities, types and siblings stand there in the
order of the outline, and nothing has been resolved.
-/
import ExpressSchema.Proofs.Printing.Word
import ExpressSchema.Schema

namespace ExpressSchema

/-! ## Lists of words, ranges and bounds -/

/-- Several words, at least one. -/
structure WordList where
  /-- The first word. -/
  first : Word
  /-- The other words. -/
  further : List Word

namespace WordList

/-- All the words. -/
def all (l : WordList) : List Word := l.first :: l.further

/-- The words as text. -/
def texts (l : WordList) : List String := l.all.map Word.text

/-- The tokens of a word in a list and of those after it. -/
def tokensFrom (closing : Token) : Char → Word → List Word → List Token
  | opening, x, [] => [x.listed opening closing]
  | opening, x, y :: ys => x.listed opening [] :: tokensFrom closing ',' y ys

/-- The list in parentheses, with the signs after it. -/
def tokens (l : WordList) (closing : Token) : List Token :=
  tokensFrom closing '(' l.first l.further

end WordList

/-- What an attribute ranges over, or what a type stands for: a built-in type or a declaration. -/
inductive RangeOutline where
  /-- A built-in type. -/
  | builtin (b : Builtin)
  /-- The entity or type of this name. -/
  | named (x : Identifier)

namespace RangeOutline

/-- The range as text. -/
def text : RangeOutline → String
  | builtin b => b.keyword
  | named x => x.text

/-- The built-in type that is the range, if it is one. -/
def builtin? : RangeOutline → Option Builtin
  | builtin b => some b
  | named _ => none

/-- The range as the last token of a declaration. -/
def ended (r : RangeOutline) : Token := r.text.toList ++ [';']

lemma ended_named (x : Identifier) : (named x).ended = x.ended := by
  rw [ended, text, Word.toList_text, Word.ended]

lemma text_ne_nil (r : RangeOutline) : r.text.toList ≠ [] := by
  cases r with
  | builtin b => cases b <;> decide
  | named x =>
    rw [text, Word.toList_text]
    exact x.ne_nil

lemma isPlainChar_of_mem_text (r : RangeOutline) : ∀ c ∈ r.text.toList, isPlainChar c = true := by
  cases r with
  | builtin b => exact List.all_eq_true.1 (by cases b <;> decide)
  | named x =>
    rw [text, Word.toList_text]
    exact x.isPlainChar_of_mem

end RangeOutline

/-- The aggregates of the language that can be told apart. -/
inductive AggregateKind where
  | array
  | set
  | list

namespace AggregateKind

/-- The keyword for an aggregate. -/
def keyword : AggregateKind → String
  | array => "ARRAY"
  | set => "SET"
  | list => "LIST"

/-- How an aggregate puts values together. -/
def aggregation : AggregateKind → Aggregation
  | array => .array
  | set => .set
  | list => .list

/-- The tokens of an aggregate, up to what it is made of. -/
def tokens (kind : AggregateKind) (bounds : Option Cardinality) : List Token :=
  kind.keyword.toList :: (bounds.toList.map fun c => c.text.toList) ++ ["OF".toList]

end AggregateKind

/-! ## Types -/

/-- The right-hand side of a type declaration. -/
inductive TypeForm where
  /-- A built-in type or another type. -/
  | plain (range : RangeOutline)
  /-- A list of values. -/
  | enumeration (values : WordList)
  /-- A choice between types. -/
  | select (members : WordList)
  /-- An aggregate. -/
  | aggregate (kind : AggregateKind) (bounds : Option Cardinality) (element : RangeOutline)

namespace TypeForm

/-- The tokens of a right-hand side. -/
def tokens : TypeForm → List Token
  | plain range => [range.ended]
  | enumeration values => "ENUMERATION".toList :: "OF".toList :: values.tokens [')', ';']
  | select members => "SELECT".toList :: members.tokens [')', ';']
  | aggregate kind bounds element => kind.tokens bounds ++ [element.ended]

/-- An aggregate as text. -/
def aggregateText (kind : AggregateKind) (bounds : Option Cardinality) (element : RangeOutline) :
    String :=
  match bounds with
  | none => kind.keyword ++ " OF " ++ element.text
  | some c => kind.keyword ++ " " ++ c.text ++ " OF " ++ element.text

/-- What a type of this form stands for. -/
def underlying : TypeForm → UnderlyingType
  | plain (.builtin b) => .builtin b
  | plain (.named x) => .named x.text
  | enumeration _ => .enumeration
  | select _ => .select
  | aggregate kind bounds element => .aggregate (aggregateText kind bounds element)

/-- The values of an enumeration. -/
def values : TypeForm → List String
  | enumeration values => values.all.map Word.key
  | _ => []

/-- The members of a select. -/
def members : TypeForm → List String
  | select members => members.texts
  | _ => []

end TypeForm

/-- A type declaration. -/
structure TypeOutline where
  /-- The name. -/
  name : Word
  /-- The right-hand side. -/
  form : TypeForm

namespace TypeOutline

/-- The tokens of a type declaration. -/
def tokens (t : TypeOutline) : List Token :=
  "TYPE".toList :: t.name.chars :: ['='] :: t.form.tokens ++ ["END_TYPE;".toList]

/-- The type that is declared. -/
def toTypeDecl (t : TypeOutline) : TypeDecl where
  key := t.name.key
  name := t.name.text
  underlying := t.form.underlying
  values := t.form.values
  members := t.form.members
  selects := []

end TypeOutline

/-! ## Attributes, inverses and uniqueness rules -/

/-- How the values of an attribute are put together. -/
inductive Shape where
  /-- One value. -/
  | scalar
  /-- An aggregate of values. -/
  | single (kind : AggregateKind) (bounds : Option Cardinality)
  /-- A list of lists of values. -/
  | listOfList (outer inner : Option Cardinality)

namespace Shape

/-- The tokens before the range. -/
def tokens : Shape → List Token
  | scalar => []
  | single kind bounds => kind.tokens bounds
  | listOfList outer inner => AggregateKind.list.tokens outer ++ AggregateKind.list.tokens inner

/-- How the values are put together. -/
def aggregation : Shape → Aggregation
  | scalar => .scalar
  | single kind _ => kind.aggregation
  | listOfList _ _ => .listOfList

/-- The bounds of the aggregate. -/
def cardinality : Shape → Cardinality
  | scalar => {}
  | single _ bounds => bounds.getD {}
  | listOfList outer _ => outer.getD {}

/-- The bounds of the aggregate inside the aggregate. -/
def innerCardinality : Shape → Cardinality
  | listOfList _ inner => inner.getD {}
  | _ => {}

end Shape

/-- An attribute declaration. -/
structure AttributeOutline where
  /-- The name. -/
  name : Word
  /-- Whether the attribute may lack a value. -/
  isOptional : Bool
  /-- How the values are put together. -/
  shape : Shape
  /-- What the values are. -/
  range : RangeOutline

namespace AttributeOutline

/-- The tokens of an attribute declaration. -/
def tokens (a : AttributeOutline) : List Token :=
  a.name.chars :: [':'] :: (if a.isOptional then ["OPTIONAL".toList] else []) ++
    a.shape.tokens ++ [a.range.ended]

/-- The attribute that is declared. -/
def toAttribute (owner : EntityId) (isUnique : Bool) (a : AttributeOutline) : Attribute where
  name := a.name.text
  declaredName := a.name.text
  owner := owner
  range := a.range.text
  rangeKey := Name.canonical a.range.text
  builtin := a.range.builtin?
  aggregation := a.shape.aggregation
  cardinality := a.shape.cardinality
  innerCardinality := a.shape.innerCardinality
  isOptional := a.isOptional
  isUnique := isUnique
  isOneToOne := false
  isInverted := false
  invertedBy := none
  rangeOrigin := none

end AttributeOutline

/-- An inverse declaration. -/
structure InverseOutline where
  /-- The name. -/
  name : Word
  /-- The bounds, if there is a set of values; they may be left out. -/
  set : Option (Option Cardinality)
  /-- The entity that it leads to. -/
  range : Word
  /-- The attribute against which it runs. -/
  forward : Word

namespace InverseOutline

/-- The tokens of an inverse declaration. -/
def tokens (i : InverseOutline) : List Token :=
  i.name.chars :: [':'] :: (i.set.elim [] AggregateKind.set.tokens) ++
    [i.range.chars, "FOR".toList, i.forward.ended]

/-- The inverse that is declared. -/
def toInverse (owner : EntityId) (i : InverseOutline) : Inverse where
  name := i.name.text
  owner := owner
  range := i.range.text
  forward := i.forward.text
  isSet := i.set.isSome
  cardinality := (i.set.getD none).getD {}
  isUnique := false
  property := none

end InverseOutline

/-- A uniqueness rule. -/
structure RuleOutline where
  /-- The label. -/
  label : Word
  /-- The attribute of which no two instances share a value. -/
  target : Word

namespace RuleOutline

/-- The tokens of a uniqueness rule. -/
def tokens (r : RuleOutline) : List Token := [r.label.chars, [':'], r.target.ended]

/-- Whether the rule is about an attribute. -/
def covers (r : RuleOutline) (a : AttributeOutline) : Bool := a.name.text == r.target.text

end RuleOutline

/-! ## Entities -/

/-- An entity declaration. -/
structure EntityOutline where
  /-- The name. -/
  name : Word
  /-- Whether the entity is abstract. -/
  isAbstract : Bool
  /-- The subtypes that exclude one another, if they are listed. -/
  subtypes : Option WordList
  /-- The supertype, if there is one. -/
  supertype : Option Word
  /-- The attributes. -/
  attributes : List AttributeOutline
  /-- The inverses. -/
  inverses : List InverseOutline
  /-- The uniqueness rules. -/
  rules : List RuleOutline

namespace EntityOutline

variable (o : EntityOutline)

/-- The canonical names of the subtypes that are listed. -/
def subtypeKeys : List String := o.subtypes.elim [] fun l => l.all.map Word.key

/-- The semicolon after the clause about subtypes, unless the supertype is still to come. -/
def stop : Token := if o.supertype.isSome then [] else [';']

lemma closes_stop {closing : Token} (h : Word.Closes closing) :
    Word.Closes (closing ++ o.stop) := by
  unfold stop
  split_ifs
  · simpa using h
  · intro c hc
    rcases List.mem_append.1 hc with hc | hc
    · exact h c hc
    · exact .inr (List.mem_singleton.1 hc)

lemma contains_stop {closing : Token} (h : closing.contains ';' = false) :
    (closing ++ o.stop).contains ';' = !o.supertype.isSome := by
  unfold stop
  cases o.supertype.isSome <;> simp_all

/-- The name as a token: a semicolon stands after it if nothing is said about supertypes and
subtypes. -/
def nameToken : Token :=
  if o.isAbstract || o.subtypes.isSome then o.name.chars else o.name.chars ++ o.stop

/-- The tokens about subtypes. -/
def subtypeTokens : List Token :=
  (if o.isAbstract then ["ABSTRACT".toList] else []) ++
    match o.subtypes with
    | none => if o.isAbstract then ["SUPERTYPE".toList ++ o.stop] else []
    | some l =>
      "SUPERTYPE".toList :: "OF".toList :: State.oneOf :: l.tokens ([')', ')'] ++ o.stop)

/-- The tokens about the supertype. -/
def supertypeTokens : List Token :=
  o.supertype.elim [] fun x => ["SUBTYPE".toList, "OF".toList, x.listed '(' [')', ';']]

/-- The tokens of the inverses. -/
def inverseTokens : List Token :=
  if o.inverses.isEmpty then [] else "INVERSE".toList :: o.inverses.flatMap InverseOutline.tokens

/-- The tokens of the uniqueness rules. -/
def ruleTokens : List Token :=
  if o.rules.isEmpty then [] else "UNIQUE".toList :: o.rules.flatMap RuleOutline.tokens

/-- The tokens of an entity declaration. -/
def tokens : List Token :=
  "ENTITY".toList :: o.nameToken :: (o.subtypeTokens ++ o.supertypeTokens ++
    o.attributes.flatMap AttributeOutline.tokens ++ o.inverseTokens ++ o.ruleTokens ++
    [State.entityEnd.toList])

/-- The entity that is declared, given the group that is opened for its subtypes. -/
def toEntity (id : EntityId) (set : SiblingSetId) : Entity where
  key := o.name.key
  name := o.name.text
  supertype := o.supertype.map Word.text
  isAbstract := o.isAbstract
  subtypes := o.subtypes.map fun _ => set
  attributes := o.attributes.map fun a => a.toAttribute id (o.rules.any (·.covers a))
  inverses := o.inverses.map (·.toInverse id)
  allAttributes := []
  allInverses := []
  selects := []

end EntityOutline

/-! ## Schemas -/

/-- The entities of an outline under their canonical names, where the first one has a given
position and opens a given group. -/
def entityEntries : Nat → Nat → List EntityOutline → List (String × Entity)
  | _, _, [] => []
  | i, n, o :: os =>
    (o.name.key, o.toEntity ⟨i⟩ ⟨n⟩) ::
      entityEntries (i + 1) (n + o.subtypes.toList.length) os

/-- The members of groups of siblings under their canonical names, where the first group has a
given position. -/
def memberEntries : Nat → List WordList → List (String × SiblingSetId)
  | _, [] => []
  | n, l :: ls => (l.all.map fun x => (x.key, ⟨n⟩)) ++ memberEntries (n + 1) ls

lemma memberEntries_append (ls ls' : List WordList) (n : Nat) :
    memberEntries n (ls ++ ls') = memberEntries n ls ++ memberEntries (n + ls.length) ls' := by
  induction ls generalizing n with
  | nil => rfl
  | cons l ls ih =>
    rw [List.cons_append, memberEntries, memberEntries, ih, List.append_assoc, List.length_cons,
      Nat.add_right_comm, Nat.add_assoc]

lemma keys_entityEntries (os : List EntityOutline) (i n : Nat) :
    (entityEntries i n os).map Prod.fst = os.map (·.name.key) := by
  induction os generalizing i n with
  | nil => rfl
  | cons o os ih => simp [entityEntries, ih]

lemma keys_memberEntries (os : List EntityOutline) (n : Nat) :
    (memberEntries n (os.filterMap EntityOutline.subtypes)).map Prod.fst =
      os.flatMap EntityOutline.subtypeKeys := by
  induction os generalizing n with
  | nil => rfl
  | cons o os ih =>
    rw [List.flatMap_cons, EntityOutline.subtypeKeys]
    cases h : o.subtypes with
    | none => simp [h, ih]
    | some l => simp [h, ih, memberEntries]

/-- What a schema declares.  No two types have the same canonical name, no two entities, and no two
members of groups of siblings. -/
structure Outline where
  /-- The name, if it is given. -/
  name : Option Word
  /-- The types. -/
  types : List TypeOutline
  /-- The entities. -/
  entities : List EntityOutline
  /-- The types have different names. -/
  nodup_types : (types.map fun t => t.name.key).Nodup
  /-- The entities have different names. -/
  nodup_entities : (entities.map fun o => o.name.key).Nodup
  /-- The members of groups of siblings have different names. -/
  nodup_members : (entities.flatMap EntityOutline.subtypeKeys).Nodup

namespace Outline

/-- The tokens of a schema. -/
def tokens (d : Outline) : List Token :=
  d.name.elim [] (fun x => ["SCHEMA".toList, x.ended]) ++ d.types.flatMap TypeOutline.tokens ++
    d.entities.flatMap EntityOutline.tokens ++ d.name.elim [] fun _ => ["END_SCHEMA;".toList]

/-- The schema that is declared. -/
def toSchema (d : Outline) : Schema where
  name := d.name.map Word.text
  entities :=
    { entries := entityEntries 0 0 d.entities
      nodup_keys := by
        rw [keys_entityEntries]
        exact d.nodup_entities }
  types :=
    { entries := d.types.map fun t => (t.name.key, t.toTypeDecl)
      nodup_keys := by
        rw [List.map_map]
        exact d.nodup_types }
  siblings :=
    { sets := (d.entities.filterMap EntityOutline.subtypes).map fun l => ⟨l.texts⟩
      byMember :=
        { entries := memberEntries 0 (d.entities.filterMap EntityOutline.subtypes)
          nodup_keys := by
            rw [keys_memberEntries]
            exact d.nodup_members } }

end Outline
end ExpressSchema
