/-
# Errors

Loading fails only when the text cannot be had, and a look-up fails only when what was asked for
does not exist.  Each error is a cause with what belongs to it, and `message` is where the words
are chosen.
-/
namespace ExpressSchema

/-- Why a schema cannot be loaded, or a look-up has no answer. -/
inductive SchemaError where
  /-- The source of the text cannot be opened or read. -/
  | unreadable (reason : String)
  /-- What was read is no usable text. -/
  | invalidInput (reason : String)
  /-- There is no such entity. -/
  | entityNotFound (name : String)
  /-- There is no such type. -/
  | typeNotFound (name : String)
  /-- There is no such property. -/
  | propertyNotFound (name : String)
  /-- The name is not that of a built-in type. -/
  | notBuiltin (name : String)
  /-- Anything else, in words. -/
  | other (reason : String)
deriving DecidableEq, Repr

namespace SchemaError

/-- What was read is not text in UTF-8. -/
def notUtf8 (detail : String) : SchemaError :=
  invalidInput ("schema is not valid UTF-8: " ++ detail)

/-- The error in words. -/
def message : SchemaError → String
  | unreadable reason => "IO error: " ++ reason
  | invalidInput reason => "Invalid schema input: " ++ reason
  | entityNotFound name => "Entity " ++ name ++ " not found"
  | typeNotFound name => "Type " ++ name ++ " not found"
  | propertyNotFound name => "Property " ++ name ++ " not found"
  | notBuiltin name => "'" ++ name ++ "' is not an EXPRESS built-in type"
  | other reason => reason

end SchemaError
end ExpressSchema
