/-
Module: WorkflowEngine.Http.MediaType
Layer: Http
Purpose: The types of bodies.
Imports: none
Trusted boundary: none
Main exports: MediaType, MediaType.read?, MediaType.isJson
-/

/-!
# Media types

A media type is a type and a subtype, which may end in a plus sign and a suffix.  Parameters may follow; they
are checked and forgotten.
-/

namespace WorkflowEngine

/-- A media type, in lower case. -/
structure MediaType where
  type : String
  subtype : String
  suffix : Option String
  deriving DecidableEq, Repr

namespace MediaType

/-- A character of a token. -/
def isToken (c : Char) : Bool := c.isAlphanum || "!#$%&'*+-.^_`|~".toList.contains c

/-- A character between quotes. -/
def isQuotable (c : Char) : Bool := 0x20 ≤ c.toNat && c.toNat < 0x7F

/-- What may come next in the parameters. -/
inductive Place where
  /-- A name, of which nothing was read. -/
  | name
  /-- The rest of a name. -/
  | nameRest
  /-- A value, of which nothing was read. -/
  | value
  /-- The rest of a value. -/
  | valueRest
  /-- A value in quotes, of which nothing was read. -/
  | quotedValue
  /-- The rest of a value in quotes. -/
  | quotedRest
  /-- The end of a parameter. -/
  | done

/-- Whether parameters are well formed. -/
def readsParameters : Place → List Char → Bool
  | .name, [] => true
  | .name, c :: rest => if c = ' ' then readsParameters .name rest
      else isToken c && readsParameters .nameRest rest
  | .nameRest, [] => false
  | .nameRest, c :: rest => if c = '=' then readsParameters .value rest
      else isToken c && readsParameters .nameRest rest
  | .value, [] => true
  | .value, c :: rest => if c = '"' then readsParameters .quotedValue rest
      else isToken c && readsParameters .valueRest rest
  | .valueRest, [] => true
  | .valueRest, c :: rest => if c = ';' then readsParameters .name rest
      else isToken c && readsParameters .valueRest rest
  | .quotedValue, [] => false
  | .quotedValue, c :: rest => isQuotable c && readsParameters .quotedRest rest
  | .quotedRest, [] => false
  | .quotedRest, c :: rest => if c = '"' then readsParameters .done rest
      else isQuotable c && readsParameters .quotedRest rest
  | .done, [] => true
  | .done, c :: rest => if c = ';' then readsParameters .name rest
      else c = ' ' && readsParameters .done rest

/-- The subtype without its suffix, and the suffix.  A plus sign at the start begins none. -/
def splitSuffix (cs : List Char) : List Char × Option (List Char) :=
  let suffix := (cs.reverse.takeWhile (· ≠ '+')).reverse
  let before := cs.take (cs.length - suffix.length - 1)
  if cs.contains '+' && !before.isEmpty then (before, some suffix) else (cs, none)

/-- Reads a media type. -/
def read? (s : String) : Option MediaType :=
  let cs := s.toList.map Char.toLower
  let (type, rest) := cs.span (· ≠ '/')
  let (full, parameters) := (rest.drop 1).span (· ≠ ';')
  if type.isEmpty || rest.isEmpty || !type.all isToken || !full.all isToken then none
  else if !parameters.isEmpty && (full.isEmpty || !readsParameters .name (parameters.drop 1)) then none
  else
    let (subtype, suffix) := splitSuffix full
    some ⟨String.ofList type, String.ofList subtype, suffix.map String.ofList⟩

/-- Whether a body of a type is JSON. -/
def isJson (m : MediaType) : Bool :=
  m.type = "application" && (m.subtype = "json" || m.suffix = some "json")

end MediaType

example : (MediaType.read? "Application/problem+json; charset=utf-8").map MediaType.isJson = some true := by
  decide

end WorkflowEngine
