import RecordGraph.Text.Decimal

/-!
# Quoted strings

A string of a JSON document stands between quotes.  Quotes, backslashes and control characters are
escaped; every other character stands for itself.  A reader also takes `\u` escapes, in which a
character beyond `FFFF` is a pair of surrogates.
-/

namespace RecordGraph.Json

def hexDigit (digit : Nat) : Char :=
  if digit < 10 then Char.ofNat (48 + digit) else Char.ofNat (87 + digit)

def hexValue? (c : Char) : Option Nat :=
  if '0' ≤ c ∧ c ≤ '9' then some (c.toNat - 48)
  else if 'a' ≤ c ∧ c ≤ 'f' then some (c.toNat - 87)
  else if 'A' ≤ c ∧ c ≤ 'F' then some (c.toNat - 55)
  else none

theorem hexValue?_hexDigit {digit : Nat} (hdigit : digit < 16) :
    hexValue? (hexDigit digit) = some digit := by
  have hall : ∀ digit, digit < 16 → hexValue? (hexDigit digit) = some digit := by decide
  exact hall digit hdigit

/-- One character inside the quotes. -/
def escapeChar (c : Char) : List Char :=
  if c = '"' then ['\\', '"']
  else if c = '\\' then ['\\', '\\']
  else if c = '\n' then ['\\', 'n']
  else if c = '\r' then ['\\', 'r']
  else if c = '\t' then ['\\', 't']
  else if c.toNat = 8 then ['\\', 'b']
  else if c.toNat = 12 then ['\\', 'f']
  else if c.toNat < 32 then
    ['\\', 'u', '0', '0', hexDigit (c.toNat / 16), hexDigit (c.toNat % 16)]
  else [c]

/-- What stands between the quotes. -/
def escape (cs : List Char) : List Char := cs.flatMap escapeChar

def quote (cs : List Char) : List Char := '"' :: escape cs ++ ['"']

/-- The character of a one-letter escape. -/
def shortEscape? (c : Char) : Option Char :=
  if c = '"' then some '"'
  else if c = '\\' then some '\\'
  else if c = '/' then some '/'
  else if c = 'b' then some (Char.ofNat 8)
  else if c = 'f' then some (Char.ofNat 12)
  else if c = 'n' then some '\n'
  else if c = 'r' then some '\r'
  else if c = 't' then some '\t'
  else none

def hexUnit? (a b c d : Char) : Option Nat :=
  match hexValue? a, hexValue? b, hexValue? c, hexValue? d with
  | some a, some b, some c, some d => some (4096 * a + 256 * b + 16 * c + d)
  | _, _, _, _ => none

/-- Split off the text up to the closing quote.  The escapes keep their written form; those of a
wrong form and bare control characters are refused. -/
def scanQuoted : List Char → Option (List Char × List Char)
  | [] => none
  | '"' :: rest => some ([], rest)
  | '\\' :: 'u' :: a :: b :: c :: d :: rest =>
    if (hexUnit? a b c d).isSome then
      (scanQuoted rest).map (fun (body, after) => ('\\' :: 'u' :: a :: b :: c :: d :: body, after))
    else none
  | '\\' :: c :: rest =>
    if (shortEscape? c).isSome then
      (scanQuoted rest).map (fun (body, after) => ('\\' :: c :: body, after))
    else none
  | c :: rest =>
    if c = '\\' ∨ c.toNat < 32 then none
    else (scanQuoted rest).map (fun (body, after) => (c :: body, after))

def isHighSurrogate (unit : Nat) : Bool := 0xD800 ≤ unit && unit < 0xDC00

def isLowSurrogate (unit : Nat) : Bool := 0xDC00 ≤ unit && unit < 0xE000

/-- The characters that a written body stands for.  A surrogate without its partner stands for no
character. -/
def unescape? : List Char → Option (List Char)
  | [] => some []
  | '\\' :: 'u' :: a :: b :: c :: d :: '\\' :: 'u' :: e :: f :: g :: h :: rest =>
    match hexUnit? a b c d, hexUnit? e f g h with
    | some unit, some next =>
      if isHighSurrogate unit then
        if isLowSurrogate next then
          (unescape? rest).map
            (Char.ofNat (0x10000 + (unit - 0xD800) * 0x400 + (next - 0xDC00)) :: ·)
        else none
      else if isLowSurrogate unit then none
      else (unescape? ('\\' :: 'u' :: e :: f :: g :: h :: rest)).map (Char.ofNat unit :: ·)
    | _, _ => none
  | '\\' :: 'u' :: a :: b :: c :: d :: rest =>
    match hexUnit? a b c d with
    | some unit =>
      if isHighSurrogate unit || isLowSurrogate unit then none
      else (unescape? rest).map (Char.ofNat unit :: ·)
    | none => none
  | '\\' :: c :: rest =>
    match shortEscape? c with
    | some plain => (unescape? rest).map (plain :: ·)
    | none => none
  | c :: rest => (unescape? rest).map (c :: ·)

end RecordGraph.Json
