/-
# What tokens lead to

A sequence of tokens leads from one state of the reader to another, and on the way one schema
becomes another.  `State.Leads` says this for all workspaces that hold the schema, so it can be put
together clause by clause.  Lists in parentheses are read back here, once for all clauses in which
they stand.
-/
import ExpressSchema.Proofs.Printing.Bounds
import ExpressSchema.Proofs.Printing.Outline
import ExpressSchema.Proofs.Reading.Edit

namespace ExpressSchema

/-- From this state and schema the tokens lead to that state and schema. -/
def State.Leads (s : State) (σ : Schema) (tokens : List Token) (t : State) (τ : Schema) : Prop :=
  ∀ w : Workspace, w.schema = σ →
    (s.feedAll tokens w).1 = t ∧ (s.feedAll tokens w).2.schema = τ

namespace State.Leads

variable {s t u : State} {σ τ υ : Schema} {token : Token} {xs ys : List Token}

lemma nil : Leads s σ [] s σ := fun _ h => ⟨rfl, h⟩

lemma write (h : ∀ w : Workspace, w.schema = σ →
      (s.step token w).1 = t ∧ (s.step token w).2.schema = τ)
    (hrest : Leads t τ xs u υ) : Leads s σ (token :: xs) u υ := by
  intro w hw
  obtain ⟨rfl, hschema⟩ := h w hw
  rw [feedAll_cons]
  exact hrest _ ((schema_feed _ _ _).trans hschema)

/-- A token that leaves the workspace alone. -/
lemma move (h : ∀ w, s.step token w = (t, w)) (hrest : Leads t σ xs u υ) :
    Leads s σ (token :: xs) u υ :=
  write (fun w hw => by rw [h]; exact ⟨rfl, hw⟩) hrest

lemma append (hxs : Leads s σ xs t τ) (hys : Leads t τ ys u υ) : Leads s σ (xs ++ ys) u υ := by
  intro w hw
  obtain ⟨hstate, hschema⟩ := hxs w hw
  rw [feedAll_append, hstate]
  exact hys _ hschema

/-- A list in parentheses is read word by word: each word but the last adds to the schema and the
reader stays in the list, and the last word ends it. -/
lemma wordList {l : WordList} {closing : Token} (done : List Word → Schema)
    (hnext : ∀ before x after opening, before ++ x :: after = l.all → Word.Opens opening →
      Leads s (done before) [x.listed opening []] s (done (before ++ [x])))
    (hlast : ∀ before x opening, before ++ [x] = l.all → Word.Opens opening →
      Leads s (done before) [x.listed opening closing] t τ) :
    Leads s (done []) (l.tokens closing) t τ := by
  have key : ∀ (xs : List Word) (x : Word) (before : List Word) (opening : Char),
      before ++ x :: xs = l.all → Word.Opens opening →
        Leads s (done before) (WordList.tokensFrom closing opening x xs) t τ := by
    intro xs
    -- along the words that come next, for any words before them and the sign that opens the next
    induction xs with
    | nil => exact fun x before opening hall hopens => hlast before x opening hall hopens
    | cons y ys ih =>
      intro x before opening hall hopens
      refine (hnext before x (y :: ys) opening hall hopens).append ?_
      exact ih y (before ++ [x]) ',' (by rw [← hall, List.append_assoc]; rfl) (.inr rfl)
  exact key l.further l.first [] '(' rfl (.inl rfl)

end State.Leads

/-! ## The declaration that is being read -/

/-- Of names that all differ, the next one is none of those before it. -/
lemma notMem_of_nodup_append_cons {α : Type} {xs ys : List α} {a : α}
    (h : (xs ++ a :: ys).Nodup) : a ∉ xs :=
  fun hmem => (List.nodup_append.1 h).2.2 a hmem a List.mem_cons_self rfl

namespace Schema

variable {s : Schema}

/-- The schema with one more entity. -/
def putEntity (s : Schema) (e : Entity) : Schema := { s with entities := s.entities.insert e.key e }

/-- The schema with one more type. -/
def putType (s : Schema) (t : TypeDecl) : Schema := { s with types := s.types.insert t.key t }

/-- A new entity gets its place for an identifier, while there are words left. -/
lemma declareEntity_of_notMem {name : String} (hroom : s.entities.size < UInt32.size)
    (h : Name.canonical name ∉ s.entities.keys) :
    s.declareEntity (Name.canonical name) name =
      (⟨s.entities.size⟩, s.putEntity (Entity.ofName name)) := by
  rw [declareEntity, Table.findOrInsert_of_notMem h, EntityId.ofNat_of_lt hroom]
  rfl

lemma declareType_of_notMem {name : String} (h : Name.canonical name ∉ s.types.keys) :
    s.declareType (Name.canonical name) name =
      (⟨s.types.size⟩, s.putType (TypeDecl.ofName name)) := by
  rw [declareType, Table.findOrInsert_of_notMem h]
  rfl

lemma keys_putType {t : TypeDecl} (h : t.key ∉ s.types.keys) :
    (s.putType t).types.keys = s.types.keys ++ [t.key] := by
  rw [putType, Table.keys_insert, if_neg h]

lemma keys_putEntity {e : Entity} (h : e.key ∉ s.entities.keys) :
    (s.putEntity e).entities.keys = s.entities.keys ++ [e.key] := by
  rw [putEntity, Table.keys_insert, if_neg h]

/-- The entity that was put last is the one that is changed. -/
lemma modifyEntity_putEntity {e : Entity} (h : e.key ∉ s.entities.keys) {f : Entity → Entity}
    (hkey : (f e).key = e.key) :
    (s.putEntity e).modifyEntity ⟨s.entities.size⟩ f = s.putEntity (f e) := by
  simp only [putEntity, modifyEntity, Table.modifyAt_insert h, hkey]

lemma modifyType_putType {t : TypeDecl} (h : t.key ∉ s.types.keys) {f : TypeDecl → TypeDecl}
    (hkey : (f t).key = t.key) :
    (s.putType t).modifyType ⟨s.types.size⟩ f = s.putType (f t) := by
  simp only [putType, modifyType, Table.modifyAt_insert h, hkey]

end Schema
end ExpressSchema
