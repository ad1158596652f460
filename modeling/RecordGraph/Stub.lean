import RecordGraph.Ordered
import RecordGraph.Text.Blank
import RecordGraph.Text.Decimal

/-!
# References to records

A stub names a record by its type and its number.  It is written `Type#number`; a reader also
takes a colon, and blanks around either part.
-/

namespace RecordGraph

structure Stub where
  type : String
  id : Int
deriving DecidableEq, Repr, Inhabited

namespace Stub

def text (stub : Stub) : String :=
  stub.type ++ "#" ++ Decimal.text stub.id

instance : ToString Stub := ⟨text⟩

/-- The strict order of references: by type, character by character, then by number. -/
def before (left right : Stub) : Bool :=
  decide (left.type < right.type) || (left.type == right.type && decide (left.id < right.id))

/-- The references in order, each once. -/
def sorted (stubs : List Stub) : List Stub :=
  Ordered.ofList before stubs

/-- Cut at the last occurrence of `separator`, which belongs to neither part. -/
def cutLast (separator : Char) (cs : List Char) : Option (List Char × List Char) :=
  match cs.reverse.dropWhile (· != separator) with
  | [] => none
  | _ :: rest => some (rest.reverse, (cs.reverse.takeWhile (· != separator)).reverse)

def isTypeChar (c : Char) : Bool := c.isAlphanum

/-- Read a reference.  The separator is the last `#`, or the last `:` where there is no `#`; the
type is one or more ASCII letters and digits. -/
def ofChars? (cs : List Char) : Option Stub :=
  let inner := Text.trim cs
  match (cutLast '#' inner).or (cutLast ':' inner) with
  | none => none
  | some (typeText, idText) =>
    let type := Text.trim typeText
    if type ≠ [] ∧ type.all isTypeChar then
      (Decimal.read? (Text.trim idText)).map (fun id => ⟨String.ofList type, id⟩)
    else none

/-- What is said of a text that is no reference. -/
def parseMessage (text : String) : String :=
  "invalid object reference '" ++ text ++ "': expected Type#id or Type:id"

def parse (text : String) : Except String Stub :=
  match ofChars? text.toList with
  | some stub => .ok stub
  | none => .error (parseMessage text)

end Stub

end RecordGraph
