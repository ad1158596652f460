import RecordGraph.Json.Binary64
import RecordGraph.Json.Quoted
import RecordGraph.Text.Decimal
import RecordGraph.Toml.Basic

/-!
# Keys and simple values

Each reader takes its part off the front of a text and returns it with the rest, or refuses.
-/

namespace RecordGraph.Toml

/-- What a reader took and what it left. -/
abbrev Read (α : Type) := Option (α × List Char)

def isSpace (c : Char) : Bool := c == ' ' || c == '\t'

def skipSpace (cs : List Char) : List Char := cs.dropWhile isSpace

/-- The characters of comments and literal strings: tabs and whatever is not a control character. -/
def isPlain (c : Char) : Bool := c == '\t' || (32 ≤ c.toNat && c.toNat != 127)

/-- A line break in one of its two forms. -/
def newline? : List Char → Option (List Char)
  | '\n' :: rest => some rest
  | '\r' :: '\n' :: rest => some rest
  | _ => none

def skipComment : List Char → List Char
  | '#' :: rest => rest.dropWhile isPlain
  | cs => cs

/-- Skip spaces, comments and line breaks, in at most `fuel` rounds. -/
def skipLines : Nat → List Char → List Char
  | 0, cs => cs
  | fuel + 1, cs =>
    match newline? (skipComment (skipSpace cs)) with
    | some rest => skipLines fuel rest
    | none => skipComment (skipSpace cs)

def skipBlank (cs : List Char) : List Char := skipLines cs.length cs

/-- So deep may values lie in each other, and so many parts may a key have. -/
def maxDepth : Nat := 79

/-! ## Strings -/

/-- The character of a code point of the given number of hexadecimal digits. -/
def codePoint? (digits : List Char) : Option Char :=
  if digits.all (fun c => (Json.hexValue? c).isSome) then
    let value := digits.foldl (fun value c => 16 * value + (Json.hexValue? c).getD 0) 0
    if value < 0xD800 ∨ (0xE000 ≤ value ∧ value < 0x110000) then some (Char.ofNat value) else none
  else none

/-- Read an escape after its backslash. -/
def readEscape : List Char → Read Char
  | 'b' :: rest => some (Char.ofNat 8, rest)
  | 't' :: rest => some ('\t', rest)
  | 'n' :: rest => some ('\n', rest)
  | 'f' :: rest => some (Char.ofNat 12, rest)
  | 'r' :: rest => some ('\r', rest)
  | '"' :: rest => some ('"', rest)
  | '\\' :: rest => some ('\\', rest)
  | 'u' :: rest =>
    if rest.length < 4 then none
    else (codePoint? (rest.take 4)).map (fun c => (c, rest.drop 4))
  | 'U' :: rest =>
    if rest.length < 8 then none
    else (codePoint? (rest.take 8)).map (fun c => (c, rest.drop 8))
  | _ => none

/-- Read a string between single quotation marks of the kind that has escapes. -/
def readBasic : Nat → List Char → Read (List Char)
  | 0, _ => none
  | _ + 1, [] => none
  | _ + 1, '"' :: rest => some ([], rest)
  | fuel + 1, '\\' :: rest =>
    match readEscape rest with
    | some (c, rest) => (readBasic fuel rest).map (fun (text, after) => (c :: text, after))
    | none => none
  | fuel + 1, c :: rest =>
    if isPlain c then (readBasic fuel rest).map (fun (text, after) => (c :: text, after))
    else none

/-- Read a string without escapes up to its closing mark. -/
def readLiteral : List Char → Read (List Char)
  | [] => none
  | '\'' :: rest => some ([], rest)
  | c :: rest =>
    if isPlain c then (readLiteral rest).map (fun (text, after) => (c :: text, after))
    else none

/-- Up to two marks directly before the three closing ones belong to the string. -/
def closeMarks (mark : Char) (cs : List Char) : Option (List Char × List Char) :=
  let marks := (cs.takeWhile (· == mark)).length
  if marks < 3 then none
  else
    let inner := min (marks - 3) 2
    some (List.replicate inner mark, cs.drop (inner + 3))

/-- Skip space and line breaks. -/
def skipBreaks : List Char → List Char
  | ' ' :: rest => skipBreaks rest
  | '\t' :: rest => skipBreaks rest
  | '\n' :: rest => skipBreaks rest
  | '\r' :: '\n' :: rest => skipBreaks rest
  | cs => cs

/-- What follows a backslash that ends a line: the text after all space and line breaks. -/
def joinLine? (cs : List Char) : Option (List Char) := (newline? (skipSpace cs)).map skipBreaks

/-- Read a string over several lines up to its closing marks; `escapes` tells whether a backslash
has a meaning in it. -/
def readLong (mark : Char) (escapes : Bool) : Nat → List Char → Read (List Char)
  | 0, _ => none
  | fuel + 1, cs =>
    match closeMarks mark cs with
    | some (text, rest) => some (text, rest)
    | none =>
      match newline? cs with
      | some rest =>
        (readLong mark escapes fuel rest).map (fun (text, after) => ('\n' :: text, after))
      | none =>
        match cs with
        | [] => none
        | c :: rest =>
          if escapes && c == '\\' then
            match joinLine? rest with
            | some rest => readLong mark escapes fuel rest
            | none =>
              match readEscape rest with
              | some (c, rest) =>
                (readLong mark escapes fuel rest).map (fun (text, after) => (c :: text, after))
              | none => none
          else if isPlain c then
            (readLong mark escapes fuel rest).map (fun (text, after) => (c :: text, after))
          else none

/-- A line break directly after the opening marks does not count. -/
def dropFirstBreak (cs : List Char) : List Char := (newline? cs).getD cs

/-- Read a string on one line. -/
def readShortString : List Char → Read String
  | '"' :: rest =>
    (readBasic (rest.length + 1) rest).map (fun (text, after) => (String.ofList text, after))
  | '\'' :: rest => (readLiteral rest).map (fun (text, after) => (String.ofList text, after))
  | _ => none

def readString : List Char → Read String
  | '"' :: '"' :: '"' :: rest =>
    (readLong '"' true (rest.length + 1) (dropFirstBreak rest)).map
      (fun (text, after) => (String.ofList text, after))
  | '\'' :: '\'' :: '\'' :: rest =>
    (readLong '\'' false (rest.length + 1) (dropFirstBreak rest)).map
      (fun (text, after) => (String.ofList text, after))
  | cs => readShortString cs

/-! ## Keys -/

def isKeyChar (c : Char) : Bool := c.isAlphanum || c == '_' || c == '-'

def readSimpleKey (cs : List Char) : Read String :=
  match cs with
  | '"' :: _ => readShortString cs
  | '\'' :: _ => readShortString cs
  | _ =>
    match cs.takeWhile isKeyChar with
    | [] => none
    | key => some (String.ofList key, cs.dropWhile isKeyChar)

/-- Read the parts of a key, with space around the dots between them. -/
def readKeyParts : Nat → List Char → Read (List String)
  | 0, _ => none
  | fuel + 1, cs =>
    match readSimpleKey (skipSpace cs) with
    | none => none
    | some (part, rest) =>
      match skipSpace rest with
      | '.' :: rest =>
        (readKeyParts fuel rest).map (fun (parts, after) => (part :: parts, after))
      | rest => some ([part], rest)

/-- Read a key: the parts before the last one, and the last one. -/
def readKey (cs : List Char) : Read (List String × String) :=
  match readKeyParts (cs.length + 1) cs with
  | some (parts, rest) =>
    if maxDepth < parts.length then none
    else
      match parts.getLast? with
      | some last => some ((parts.dropLast, last), rest)
      | none => none
  | none => none

/-! ## Numbers -/

/-- Digits of a class with single underscores between them. -/
def readDigits (isDigit : Char → Bool) : Nat → List Char → Read (List Char)
  | 0, _ => none
  | fuel + 1, cs =>
    match cs.takeWhile isDigit, cs.dropWhile isDigit with
    | [], _ => none
    | digits, '_' :: rest =>
      (readDigits isDigit fuel rest).map (fun (more, after) => (digits ++ more, after))
    | digits, rest => some (digits, rest)

def readDecimalDigits (cs : List Char) : Read (List Char) :=
  readDigits Char.isDigit (cs.length + 1) cs

/-- The whole part of a number: zero alone, or digits that do not start with zero. -/
def readWhole : List Char → Read (List Char)
  | '0' :: rest => some (['0'], rest)
  | cs => readDecimalDigits cs

def readSign : List Char → Bool × List Char
  | '-' :: rest => (true, rest)
  | '+' :: rest => (false, rest)
  | cs => (false, cs)

def radixValue (radix : Nat) (digits : List Char) : Nat :=
  digits.foldl (fun value c => radix * value + (Json.hexValue? c).getD 0) 0

def checkedInteger (value : Int) (rest : List Char) : Read Toml :=
  if Decimal.InRange value then some (.integer value, rest) else none

def readRadix (radix : Nat) (isDigit : Char → Bool) (cs : List Char) : Read Toml :=
  match readDigits isDigit (cs.length + 1) cs with
  | some (digits, rest) => checkedInteger (radixValue radix digits) rest
  | none => none

def isHexChar (c : Char) : Bool := (Json.hexValue? c).isSome

def readInteger (cs : List Char) : Read Toml :=
  match cs with
  | '0' :: 'x' :: rest => readRadix 16 isHexChar rest
  | '0' :: 'o' :: rest => readRadix 8 (fun c => '0' ≤ c && c ≤ '7') rest
  | '0' :: 'b' :: rest => readRadix 2 (fun c => c == '0' || c == '1') rest
  | _ =>
    let (negative, rest) := readSign cs
    match readWhole rest with
    | some (digits, rest) =>
      let value : Int := Decimal.ofDigits digits
      checkedInteger (if negative then -value else value) rest
    | none => none

/-- An optional power of ten. -/
def readPower (cs : List Char) : Read (Option Int) :=
  match cs with
  | c :: rest =>
    if c == 'e' || c == 'E' then
      let (negative, rest) := readSign rest
      match readDecimalDigits rest with
      | some (digits, rest) =>
        let value : Int := Decimal.ofDigits digits
        some (some (if negative then -value else value), rest)
      | none => none
    else some (none, cs)
  | [] => some (none, [])

/-- Whether a decimal is beyond the greatest floating-point number. -/
def overflows (digits : List Char) (exponent : Int) : Bool :=
  let value := Decimal.ofDigits digits
  if value = 0 then false
  else
    let magnitude : Int := (Decimal.digits value).length + exponent
    if magnitude < 300 then false
    else if 320 < magnitude then true
    else
      (Json.Binary64.ofRatio false (value * Json.Binary64.tenTo exponent.toNat)
        (Json.Binary64.tenTo (-exponent).toNat)).isNone

/-- A number with a fraction, a power of ten, or both.  A positive one must be finite. -/
def readFloat (cs : List Char) : Read Toml :=
  let (negative, rest) := readSign cs
  match rest with
  | 'i' :: 'n' :: 'f' :: rest => some (.float, rest)
  | 'n' :: 'a' :: 'n' :: rest => some (.float, rest)
  | _ =>
    match readWhole rest with
    | none => none
    | some (whole, rest) =>
      match rest with
      | '.' :: rest =>
        match readDecimalDigits rest with
        | none => none
        | some (fraction, rest) =>
          match readPower rest with
          | none => none
          | some (power, rest) =>
            if !negative && overflows (whole ++ fraction) (power.getD 0 - fraction.length) then none
            else some (.float, rest)
      | rest =>
        match readPower rest with
        | some (some power, rest) =>
          if !negative && overflows whole power then none else some (.float, rest)
        | _ => none

/-! ## Dates and times -/

/-- Read exactly `count` digits. -/
def readNumber (count : Nat) (cs : List Char) : Read Nat :=
  if cs.length < count ∨ !(cs.take count).all Char.isDigit then none
  else some (Decimal.ofDigits (cs.take count), cs.drop count)

def isLeapYear (year : Nat) : Bool := year % 4 == 0 && (year % 100 != 0 || year % 400 == 0)

def daysOfMonth (year month : Nat) : Nat :=
  if month == 2 then (if isLeapYear year then 29 else 28)
  else if month == 4 || month == 6 || month == 9 || month == 11 then 30
  else 31

def readDate (cs : List Char) : Option (List Char) :=
  match readNumber 4 cs with
  | some (year, '-' :: rest) =>
    match readNumber 2 rest with
    | some (month, '-' :: rest) =>
      match readNumber 2 rest with
      | some (day, rest) =>
        if 1 ≤ month ∧ month ≤ 12 ∧ 1 ≤ day ∧ day ≤ daysOfMonth year month then some rest else none
      | none => none
    | _ => none
  | _ => none

/-- An optional fraction of a second. -/
def readSecondFraction : List Char → Option (List Char)
  | '.' :: rest =>
    if rest.takeWhile Char.isDigit = [] then none else some (rest.dropWhile Char.isDigit)
  | rest => some rest

def readTime (cs : List Char) : Option (List Char) :=
  match readNumber 2 cs with
  | some (hour, ':' :: rest) =>
    match readNumber 2 rest with
    | some (minute, ':' :: rest) =>
      match readNumber 2 rest with
      | some (second, rest) =>
        if hour ≤ 23 ∧ minute ≤ 59 ∧ second ≤ 60 then readSecondFraction rest else none
      | none => none
    | _ => none
  | _ => none

/-- An optional offset from UTC. -/
def readOffset (cs : List Char) : Option (List Char) :=
  match cs with
  | 'Z' :: rest => some rest
  | 'z' :: rest => some rest
  | c :: rest =>
    if c == '+' || c == '-' then
      match readNumber 2 rest with
      | some (hour, ':' :: rest) =>
        match readNumber 2 rest with
        | some (minute, rest) => if hour ≤ 23 ∧ minute ≤ 59 then some rest else none
        | none => none
      | _ => none
    else some cs
  | [] => some []

/-- A date, a time, or both with an optional offset. -/
def readDatetime (cs : List Char) : Read Toml :=
  match readDate cs with
  | some rest =>
    match rest with
    | c :: after =>
      if c == 'T' || c == 't' || c == ' ' then
        match readTime after with
        | some after => (readOffset after).map (fun after => (.datetime, after))
        | none => if c == ' ' then some (.datetime, rest) else none
      else some (.datetime, rest)
    | [] => some (.datetime, [])
  | none => (readTime cs).map (fun rest => (.datetime, rest))

/-- A value that starts with a digit or a sign. -/
def readNumeric (cs : List Char) : Read Toml :=
  (readDatetime cs).or ((readFloat cs).or (readInteger cs))

end RecordGraph.Toml
