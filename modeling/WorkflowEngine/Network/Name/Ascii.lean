/-
Module: WorkflowEngine.Network.Name.Ascii
Layer: Network
Purpose: The ASCII form in which a host name is looked up.
Imports: WorkflowEngine.Network.Name.Mapping, WorkflowEngine.Network.Name.Punycode,
  WorkflowEngine.Text.Composition, WorkflowEngine.Text.Direction, WorkflowEngine.Text.Joining
Trusted boundary: none
Main exports: Name.ascii?
-/
import WorkflowEngine.Network.Name.Mapping
import WorkflowEngine.Network.Name.Punycode
import WorkflowEngine.Text.Composition
import WorkflowEngine.Text.Direction
import WorkflowEngine.Text.Joining

/-!
# Host names in ASCII

A name is mapped, composed and split at its dots.  A label outside ASCII must be a proper one: it starts with
no mark, joiners stand only where they join, and if some label runs from right to left, each label has one
direction.  Such a label is then encoded.  A label that comes encoded must decode to a proper one.
-/

namespace WorkflowEngine.Name

/-- The characters that may not stand in a host: controls, the blank, and the delimiters of a URL. -/
def isForbidden (c : Char) : Bool :=
  c.toNat ≤ 0x20 || c.toNat = 0x7F || "%#/:<>?@[\\]^|".toList.contains c

/-- Whether a character is one of ASCII. -/
def isAscii (c : Char) : Bool := c.toNat < 128

/-- The mark of an encoded label. -/
def encodedMark : List Char := "xn--".toList

/-! ## Mapping -/

/-- Maps every character; none if one is refused. -/
def mapped? : List Char → Option (List Char)
  | [] => some []
  | c :: rest =>
      if isAscii c then (mapped? rest).map (c.toLower :: ·)
      else if nameDisallowed.contains c then none
      else match nameMapping.find? c with
        | some image => (mapped? rest).map (image.map Char.ofNat ++ ·)
        | none => (mapped? rest).map (c :: ·)

/-- Whether a character stands for itself. -/
def isStable (c : Char) : Bool := mapped? [c] = some [c]

/-! ## Joiners -/

/-- Whether the characters before a non-joiner, nearest first, end in one that joins to the left. -/
def joinsBefore (before : List Char) : Bool :=
  match before.dropWhile joiningTransparent.contains with
  | c :: _ => joiningDual.contains c || joiningLeft.contains c
  | [] => false

/-- Whether the characters after a non-joiner start with one that joins to the right. -/
def joinsAfter (after : List Char) : Bool :=
  match after.dropWhile joiningTransparent.contains with
  | c :: _ => joiningDual.contains c || joiningRight.contains c
  | [] => false

/-- Whether all joiners stand where they join; `before` holds the characters passed, nearest first. -/
def joinersFit : (before : List Char) → List Char → Bool
  | _, [] => true
  | before, c :: rest =>
      let afterVirama := (before.head?.map virama.contains).getD false
      let fits :=
        if c.toNat = 0x200D then afterVirama
        else if c.toNat = 0x200C then afterVirama || (joinsBefore before && joinsAfter rest)
        else true
      fits && joinersFit (c :: before) rest

/-! ## Direction -/

/-- Whether a label makes its name one that runs in both directions. -/
def runsBack (label : List Char) : Bool :=
  label.any fun c => rightToLeft.contains c || arabicNumber.contains c

/-- Whether a label has one direction. -/
def oneDirection (label : List Char) : Bool :=
  let trimmed := (label.reverse.dropWhile nonspacing.contains).reverse
  match label with
  | [] => true
  | first :: _ =>
      if rightToLeft.contains first then
        let body := label.all fun c =>
          rightToLeft.contains c || arabicNumber.contains c || europeanNumber.contains c
            || neutral.contains c || nonspacing.contains c
        let ending := (trimmed.getLast?.map fun c =>
          rightToLeft.contains c || europeanNumber.contains c || arabicNumber.contains c).getD false
        body && ending && !(label.any europeanNumber.contains && label.any arabicNumber.contains)
      else if leftToRight.contains first then
        let body := label.all fun c =>
          leftToRight.contains c || europeanNumber.contains c || neutral.contains c
            || nonspacing.contains c
        let ending := (trimmed.getLast?.map fun c =>
          leftToRight.contains c || europeanNumber.contains c).getD false
        body && ending
      else false

/-! ## Labels -/

/-- The longest label that is decoded or encoded. -/
def decodeLimit : Nat := 2000

/-- The longest label that is encoded. -/
def encodeLimit : Nat := 1000

/-- Decodes a label that comes encoded.  It must hold a character outside ASCII and already be mapped and
composed. -/
def decoded? (label : List Char) : Option (List Char) :=
  let body := label.drop encodedMark.length
  if label.all isAscii && body.getLast? ≠ some '-' && body.length ≤ decodeLimit then
    match Punycode.decode? body with
    | some plain =>
        if plain.any (fun c => !isAscii c) && plain.all isStable && compose plain == plain then some plain
        else none
    | none => none
  else none

/-- The plain form of a label. -/
def plain? (label : List Char) : Option (List Char) :=
  if encodedMark.isPrefixOf label then decoded? label else some label

/-- Whether a plain label is a proper one, its direction apart. -/
def isProper (label : List Char) : Bool :=
  label.all isAscii || (!((label.head?.map mark.contains).getD false) && joinersFit [] label)

/-- The ASCII form of a plain label. -/
def encoded? (label : List Char) : Option (List Char) :=
  if label.all isAscii then some label
  else if label.length ≤ encodeLimit then some (encodedMark ++ Punycode.encode label)
  else none

/-- Puts dots between labels. -/
def joinLabels (labels : List (List Char)) : List Char := ['.'].intercalate labels

/-- The ASCII form of a name that needs the full treatment. -/
def full? (cs : List Char) : Option (List Char) := do
  let labels ← ((compose (← mapped? cs)).splitOn '.').mapM plain?
  if labels.all isProper && (!labels.any runsBack || labels.all oneDirection) then
    let ascii ← labels.mapM encoded?
    some (joinLabels ascii)
  else none

/-- The ASCII form of a name: lower case where that is all there is to do. -/
def ascii? (cs : List Char) : Option (List Char) :=
  let lower := cs.map Char.toLower
  let simple := cs.all isAscii && (lower.splitOn '.').all fun l => !encodedMark.isPrefixOf l
  match if simple then some lower else full? cs with
  | some name => if name.any isForbidden then none else some name
  | none => none

end WorkflowEngine.Name
