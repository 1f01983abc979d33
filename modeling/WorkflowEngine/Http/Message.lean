/-
Module: WorkflowEngine.Http.Message
Layer: Http
Purpose: Requests to the service and its responses.
Imports: WorkflowEngine.Json.Writer
Trusted boundary: none
Main exports: HttpRequest, HttpRequest.path, HttpRequest.header?, HttpResponse
-/
import WorkflowEngine.Json.Writer

/-!
# Requests and responses

Names of headers are kept in lower case.  The values of headers and the body of a request are bytes, and need not be
text.
-/

namespace WorkflowEngine

/-- A request. -/
structure HttpRequest where
  method : String
  /-- The path and the query. -/
  target : String
  headers : List (String × List UInt8)
  body : List UInt8
  deriving DecidableEq, Repr

namespace HttpRequest

/-- What comes after the scheme and the host, if a target names them. -/
def withoutOrigin (cs : List Char) : List Char :=
  if "http://".toList.isPrefixOf cs || "https://".toList.isPrefixOf cs then
    ((cs.dropWhile (· ≠ '/')).drop 2).dropWhile fun c => c ≠ '/' && c ≠ '?' && c ≠ '#'
  else cs

/-- The path of a request. -/
def path (r : HttpRequest) : List Char :=
  match (withoutOrigin r.target.toList).takeWhile fun c => c ≠ '?' && c ≠ '#' with
  | [] => ['/']
  | cs => cs

/-- Whether a byte may stand in a header that is text. -/
def isPrintable (byte : UInt8) : Bool := (0x20 ≤ byte && byte < 0x7F) || byte = 0x09

/-- The value of a header that is text. -/
def header? (r : HttpRequest) (name : String) : Option String :=
  ((r.headers.lookup name).filter fun value => value.all isPrintable).map fun value =>
    String.ofList (value.map fun byte => Char.ofNat byte.toNat)

end HttpRequest

/-- A response. -/
structure HttpResponse where
  status : Nat
  headers : List (String × String)
  body : String
  deriving DecidableEq, Repr

namespace HttpResponse

/-- A response without a body. -/
def empty (status : Nat) : HttpResponse := ⟨status, [], ""⟩

/-- A response that is plain text. -/
def ofText (status : Nat) (body : String) : HttpResponse :=
  ⟨status, [("content-type", "text/plain; charset=utf-8")], body⟩

/-- A response that is JSON. -/
def ofJson (status : Nat) (body : Json) : HttpResponse :=
  ⟨status, [("content-type", "application/json")], body.compact⟩

/-- A response with one more header. -/
def withHeader (r : HttpResponse) (name value : String) : HttpResponse :=
  { r with headers := r.headers ++ [(name, value)] }

end HttpResponse

end WorkflowEngine
