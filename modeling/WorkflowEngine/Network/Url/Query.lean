/-
Module: WorkflowEngine.Network.Url.Query
Layer: Network
Purpose: The names and values in the query of a URL.
Imports: WorkflowEngine.Network.Percent
Trusted boundary: none
Main exports: readForm
-/
import WorkflowEngine.Network.Percent

/-!
# Queries

A query is a list of names and values with `&` between them.  A plus sign stands for a blank, and bytes that are
no text are replaced.
-/

namespace WorkflowEngine.Url

/-- Reads a name or a value. -/
def readFormText (cs : List Char) : String :=
  String.ofList (Utf8.lossy (Percent.bytes (cs.map fun c => if c = '+' then ' ' else c)))

/-- Reads a name and, after the first `=`, its value. -/
def readFormPair (cs : List Char) : String × String :=
  let (name, value) := cs.span (· ≠ '=')
  (readFormText name, readFormText (value.drop 1))

/-- Reads the names and values of a query. -/
def readForm (query : String) : List (String × String) :=
  ((query.toList.splitOn '&').filter (! ·.isEmpty)).map readFormPair

end WorkflowEngine.Url
