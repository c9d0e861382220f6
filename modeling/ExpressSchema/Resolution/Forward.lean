/-
# Forward attributes

An inverse runs against an attribute of the entity that it leads to, or of a supertype of it.  The
attribute is marked with the inverse, and the inverse learns whether the attribute is unique.
-/
import ExpressSchema.Resolution.Inheritance

namespace ExpressSchema

namespace Schema

/-- The inverse with this identifier. -/
def inverseAt? (s : Schema) (id : InverseId) : Option Inverse :=
  (s.entityAt? id.entity).bind (·.inverses[id.slot]?)

/-- The attribute with this identifier. -/
def attributeAt? (s : Schema) (id : AttributeId) : Option Attribute :=
  (s.entityAt? id.entity).bind (·.attributes[id.slot]?)

/-- Change the attribute with this identifier. -/
def modifyAttribute (s : Schema) (id : AttributeId) (f : Attribute → Attribute) : Schema :=
  s.modifyEntity id.entity fun e => { e with attributes := e.attributes.modify id.slot f }

/-- Change the inverse with this identifier. -/
def modifyInverse (s : Schema) (id : InverseId) (f : Inverse → Inverse) : Schema :=
  s.modifyEntity id.entity fun e => { e with inverses := e.inverses.modify id.slot f }

end Schema

/-- An attribute marked with an inverse that runs against it; the two are one to one if neither
may have several values. -/
def Attribute.markInverted (a : Attribute) (id : InverseId) (inverse : Inverse) : Attribute :=
  { a with
    isOneToOne := a.isOneToOne ||
      (inverse.cardinality.isSingle && !a.aggregation.isCollection)
    isInverted := true
    invertedBy := some id }

/-- The key under which the attribute is indexed against which an inverse runs. -/
def Inverse.forwardKey (i : Inverse) : String := attributeKey (Name.canonical i.range) i.forward

namespace Workspace

/-- Mark the attribute against which an inverse runs. -/
def markForward (index : AttributeIndex) (w : Workspace) (id : InverseId) : Workspace :=
  match w.schema.inverseAt? id with
  | none => w
  | some inverse =>
    let found := w.canonical inverse.range
    let key := attributeKey found.1 inverse.forward
    let w := found.2
    match index.get? key with
    | some target =>
      let isUnique := (w.schema.attributeAt? target).any (·.isUnique)
      (w.update (·.modifyAttribute target (·.markInverted id inverse))).update
        (·.modifyInverse id fun i => { i with isUnique := isUnique })
    | none =>
      (w.record (.forwardMissing key id.entity)).update
        (·.modifyInverse id fun i => { i with isUnique := false })

/-- Mark the attributes against which inverses run, and give each entity the list of all its
inverses. -/
def inheritInverses (index : AttributeIndex) (w : Workspace) : Workspace :=
  let inverses := w.schema.entityIds.flatMap w.schema.ownInverses
  (inverses.foldl (markForward index) w).update Schema.collectInverses

end Workspace
end ExpressSchema
