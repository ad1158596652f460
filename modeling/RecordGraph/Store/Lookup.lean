import RecordGraph.Json.Raw
import RecordGraph.Json.Write
import RecordGraph.Store.Basic

/-!
# Lists in questions

A question about many records hands all references to the store in one text: a document that lists
each type with its number.  The types that a question is restricted to are handed over in the same
way.  The store reads such a text again and goes by what its items stand for.
-/

namespace RecordGraph

namespace Json

/-- The whole number that digits alone stand for, however many they are. -/
def Lexeme.toWhole? (lexeme : Lexeme) : Option Int :=
  match lexeme.fraction, lexeme.power with
  | none, none =>
    let value : Int := Decimal.ofDigits lexeme.whole
    some (if lexeme.negative then -value else value)
  | _, _ => none

/-- What the items of a list stand for.  An item of another form stands for nothing; a text that is
no document at all is refused. -/
def ofListText? {α : Type} (item? : Raw → Option α) (text : String) : Option (List α) :=
  match Raw.ofChars? text.toList with
  | some (.array items) => some (items.filterMap item?)
  | some _ => some []
  | none => none

end Json

namespace Stub

/-- The document that lists references. -/
def listDocument (stubs : List Stub) : Json :=
  .arr (stubs.map fun stub => .arr [.str stub.type, .int stub.id])

def listText (stubs : List Stub) : String := (listDocument stubs).compact

/-- The reference that an item of a list stands for.  Of an item, only the two parts that are asked
for are read any further. -/
def ofItem? : Json.Raw → Option Stub
  | .array (.string body :: .number lexeme :: _) =>
    match Json.unescape? body, lexeme.toWhole? with
    | some type, some id => some ⟨String.ofList type, id⟩
    | _, _ => none
  | _ => none

/-- The references that a text lists. -/
def ofListText? (text : String) : Option (List Stub) := Json.ofListText? ofItem? text

/-- The references that the store goes by when it is handed some. -/
def listed (stubs : List Stub) : List Stub := (ofListText? (listText stubs)).getD []

end Stub

namespace TypeName

/-- The document that lists names of types. -/
def listDocument (names : List String) : Json := .arr (names.map Json.str)

/-- The names that the store goes by when it is handed some. -/
def listed (names : List String) : List String :=
  (Json.ofListText? Json.Raw.text? (listDocument names).compact).getD []

end TypeName

namespace Store

/-- The stored records that some of the references name, in order. -/
def getObjects? (store : Store) (stubs : List Stub) : Option (List Object) :=
  if stubs.isEmpty then some []
  else (Stub.ofListText? (Stub.listText stubs)).map fun named =>
    Object.sorted (store.objects.filter fun object => named.contains object.stub)

end Store

end RecordGraph
