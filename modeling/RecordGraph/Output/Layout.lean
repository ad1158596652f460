/-!
# Layout of text for people

Sections with a heading over a rule, and lines of a name and a value.
-/

namespace RecordGraph.Layout

def ruleWidth : Nat := 72

def rule : String := String.ofList (List.replicate ruleWidth '-') ++ "\n"

/-- A heading over a rule. -/
def headed (heading : String) : String := heading ++ "\n" ++ rule

/-- Spaces after the text up to a width, counted in characters. -/
def padRight (width : Nat) (text : String) : String :=
  text ++ String.ofList (List.replicate (width - text.length) ' ')

/-- A line of a name and a value; the values start in one column. -/
def keyValue (key value : String) : String := padRight 12 (key ++ ":") ++ " " ++ value ++ "\n"

end RecordGraph.Layout
