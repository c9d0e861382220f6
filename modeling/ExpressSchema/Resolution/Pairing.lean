/-
# Pairing inverses

The property of an inverse and the property against which it runs become each other's inverse.
An inverse against a collection is let go again, as is one whose forward property is unknown; and
where two inverses run against one property, both are let go.  Letting go takes the name away: the
property itself stays.
-/
import ExpressSchema.Schema

namespace ExpressSchema

/-- An inverse to be paired. -/
structure PendingInverse where
  /-- The property of the inverse. -/
  own : PropertyId
  /-- The attribute against which it runs, as written. -/
  forward : String
  /-- The entity that it leads to, as written. -/
  range : String
deriving DecidableEq, Repr

namespace PropertyTable

/-- The property against which an inverse runs: the one named as the forward attribute is written,
or else the one of that attribute of the entity that the inverse leads to. -/
def forwardOf? (t : PropertyTable) (p : PendingInverse) : Option PropertyId :=
  (t.idOf? p.forward).or (t.idOf? (Name.qualified p.forward p.range))

/-- The name of a property, and nothing if there is no such property. -/
def nameOf (t : PropertyTable) (id : PropertyId) : String := ((t.byId? id).map (·.name)).getD ""

/-- Let go the property that has been paired before: its name goes, or if that is not there the
name as declared, and it is left without an inverse. -/
def dropPaired (t : PropertyTable) (id : PropertyId) : PropertyTable :=
  let dropped :=
    match t.byId? id with
    | some p =>
      let taken := t.take p.name
      if taken.1.isSome then taken.2 else t.remove p.declaredName
    | none => t
  dropped.unlink id

end PropertyTable

namespace Schema

/-- The inverses that have a property, in order. -/
def pendingInverses (s : Schema) : List PendingInverse :=
  s.entities.values.flatMap fun e => e.inverses.filterMap fun i =>
    i.property.map fun own => ⟨own, i.forward, i.range⟩

end Schema

namespace Workspace

/-- Change the properties. -/
def updateProperties (w : Workspace) (f : PropertyTable → PropertyTable) : Workspace :=
  w.update fun s => { s with properties := f s.properties }

/-- Let a property go by taking its name away. -/
def dropProperty (w : Workspace) (id : PropertyId) : Workspace :=
  match w.schema.properties.byId? id with
  | none => w
  | some p =>
    let taken := w.schema.properties.take p.name
    if taken.1.isSome then w.updateProperties fun _ => taken.2
    else w.record (.nameAlreadyGone p.name)

/-- Pair an inverse with a property that is still free.  A collection is left unpaired and
free. -/
def pairFree (claimed : List PropertyId) (w : Workspace) (own target : PropertyId) :
    List PropertyId × Workspace :=
  let w := w.updateProperties (·.link own target)
  if (w.schema.properties.byId? target).any (·.isCollection) then
    let w := w.dropProperty own
    (claimed, w.updateProperties fun t => (t.unlink own).unlink target)
  else (target :: claimed, w)

/-- Let go an inverse whose forward property another inverse has claimed, together with that other
one. -/
def dropBoth (w : Workspace) (own target : PropertyId) : Workspace :=
  let w :=
    match (w.schema.properties.byId? target).bind (·.inverse) with
    | some previous => w.updateProperties (·.dropPaired previous)
    | none => w
  let w := (w.dropProperty own).updateProperties (·.unlink target)
  w.report (.claimedTwice (w.schema.properties.nameOf target))

/-- Pair one inverse, the properties claimed so far being known. -/
def pairInverse (state : List PropertyId × Workspace) (p : PendingInverse) :
    List PropertyId × Workspace :=
  let (claimed, w) := state
  match w.schema.properties.forwardOf? p with
  | none =>
    let w := w.dropProperty p.own
    (claimed, w.report (.unknownForward (w.schema.properties.nameOf p.own) p.forward))
  | some target =>
    if target ∈ claimed then (claimed, w.dropBoth p.own target)
    else w.pairFree claimed p.own target

/-- Pair all inverses, one after the other. -/
def pairInverses (w : Workspace) : Workspace :=
  let w := (w.schema.pendingInverses.foldl pairInverse ([], w)).2
  w.record (.inversesPaired w.schema.properties.size)

end Workspace
end ExpressSchema
