/-
# Loading a schema

A schema is loaded from a text, from lines that are already apart, or from a stream of bytes.  All
of them come down to a sequence of lines: comments are taken out, the tokens are read, and then
references are resolved.  Loading a text or lines never fails; a stream fails when it cannot be
read to its end or is not text in UTF-8.
-/
import ExpressSchema.Error
import ExpressSchema.Reader
import ExpressSchema.Resolution
import ExpressSchema.Text.Comment
import ExpressSchema.Text.Line

namespace ExpressSchema

/-- What is to be done with the text. -/
structure LoadSettings where
  /-- Whether references are resolved after reading. -/
  resolves : Bool := true
  /-- Whether comments are taken out before reading. -/
  stripsComments : Bool := true
deriving DecidableEq, Repr, Inhabited

/-- A loaded schema, and what came of loading it. -/
structure Loaded where
  /-- The schema. -/
  schema : Schema
  /-- The built-in types used so far, in this schema and in those loaded before. -/
  builtins : Catalogue
  /-- What happened, in order. -/
  log : Array Event
  /-- The progress reported on the way. -/
  progress : List Progress

/-- Lines without their comments, if comments are to be taken out. -/
def LoadSettings.prepare (settings : LoadSettings) (lines : List (List Char)) :
    List (List Char) :=
  if settings.stripsComments then (Text.stripLines .code lines).map (·.text) else lines

/-- The lines of a text as they are read. -/
def LoadSettings.scan (settings : LoadSettings) (text : String) : List String :=
  (settings.prepare (Text.lines text.toList)).map String.ofList

/-- Read lines one after the other. -/
def State.feedLines (s : State) (lines : List (List Char)) (w : Workspace) : State × Workspace :=
  lines.foldl (fun p line => p.1.feedAll (Text.words line) p.2) (s, w)

namespace Workspace

/-- Note that all lines have been read, and whether a declaration was left open. -/
def endReading (w : Workspace) (state : State) (lines : Nat) : Workspace :=
  let w := if state = .topLevel then w else w.record (.endedInside state.label)
  w.record (.declarationsRead lines w.schema.entities.size w.schema.types.size)

/-- Note that the schema is loaded, if something is wrong in it. -/
def endLoading (w : Workspace) : Workspace :=
  if w.schema.diagnostics.isEmpty then w
  else w.record (.loadedWithProblems w.schema.diagnostics.length)

end Workspace

namespace Load

/-- The progress reported by a whole load. -/
def progress (settings : LoadSettings) : List Progress :=
  ⟨"Reading declarations", 0⟩ ::
    ((if settings.resolves then Resolution.progress 30 100 else []) ++ [⟨"Complete", 100⟩])

/-- Load a schema from its lines. -/
def lines (settings : LoadSettings) (builtins : Catalogue) (lines : List (List Char)) :
    Loaded :=
  let read := State.topLevel.feedLines (settings.prepare lines) { builtins := builtins }
  let w := read.2.endReading read.1 lines.length
  let w := if settings.resolves then w.resolve else w
  let w := w.endLoading
  ⟨w.schema, w.builtins, w.log, progress settings⟩

/-- Load a schema from its text. -/
def text (settings : LoadSettings) (builtins : Catalogue) (text : String) : Loaded :=
  lines settings builtins (Text.lines text.toList)

/-- Load a schema from strings, each of which counts as one line whatever it contains. -/
def strings (settings : LoadSettings) (builtins : Catalogue) (strings : List String) : Loaded :=
  lines settings builtins (strings.map String.toList)

end Load

/-! ## Streams -/

/-- Why the bytes of a schema cannot be had to their end. -/
inductive ReadFailure where
  /-- There is no such file. -/
  | missing
  /-- The file is a directory. -/
  | directory
  /-- The bytes are said not to be text. -/
  | invalidData (reason : String)
  /-- The source of the bytes fails. -/
  | broken (reason : String)
deriving DecidableEq, Repr

/-- A failure to read as the error of loading. -/
def ReadFailure.toError : ReadFailure → SchemaError
  | missing => .unreadable "No such file or directory (os error 2)"
  | directory => .unreadable "Is a directory (os error 21)"
  | invalidData reason => .notUtf8 reason
  | broken reason => .unreadable reason

/-- A stream of bytes, which after its last byte may break off instead of ending. -/
structure ByteStream where
  /-- The bytes. -/
  bytes : List UInt8
  /-- Why the stream breaks off, if it does. -/
  failure : Option ReadFailure := none
deriving DecidableEq, Repr

namespace ByteStream

/-- A line feed. -/
def lineFeed : UInt8 := 10

/-- A carriage return. -/
def carriageReturn : UInt8 := 13

/-- The text that bytes encode in UTF-8. -/
def decode (bytes : List UInt8) : Except SchemaError (List Char) :=
  match String.fromUTF8? ⟨bytes.toArray⟩ with
  | some text => .ok text.toList
  | none => .error (.notUtf8 "stream did not contain valid UTF-8")

/-- The lines of a stream.  Every finished line is decoded before what follows it is looked at; a
failure of the stream takes the place of what follows the last line feed. -/
def lines? (s : ByteStream) : Except SchemaError (List (List Char)) := do
  let split := Text.splitLines lineFeed s.bytes
  let finished ← split.1.mapM fun line => decode (Text.dropEnd line carriageReturn)
  match s.failure with
  | some failure => .error failure.toError
  | none =>
    if split.2.isEmpty then .ok finished
    else
      let last ← decode split.2
      .ok (finished ++ [last])

end ByteStream

/-- Load a schema from a stream of bytes. -/
def Load.stream (settings : LoadSettings) (builtins : Catalogue) (s : ByteStream) :
    Except SchemaError Loaded :=
  s.lines?.map (Load.lines settings builtins)

end ExpressSchema
