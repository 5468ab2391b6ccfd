/-
# Reading JSON text

A reader of the RFC 8259 grammar with the hooks a strict profile needs: what a
syntax error is, what becomes of integers, of fractional numbers and of the
non-finite constants some writers emit, and what is done with the field list of
each object once its closing brace has been read.

The recursion is on a fuel argument, so every definition evaluates. One unit is
spent for each nested value and for each array or object element, and the length
of the text is always enough.
-/

import Containment.Json.Value

namespace Json

variable {ε : Type}

/-- How a strict profile reacts to the parts of a text it may refuse. -/
structure Hooks (ε : Type) where
  /-- The text does not follow the grammar. -/
  invalid : ε
  parseInt : ℤ → Except ε ℤ
  /-- A number with a fraction or an exponent. -/
  parseFloat : String → Except ε Json
  /-- One of the constants `NaN`, `Infinity` and `-Infinity`. -/
  parseConstant : String → Except ε Json
  /-- The fields of an object, in the order of the text. -/
  object : List (String × Json) → Except ε (List (String × Json))

def isSpace (c : Char) : Bool := c = ' ' || c = '\t' || c = '\n' || c = '\r'

def skipSpace (cs : List Char) : List Char := cs.dropWhile isSpace

/-! ## Strings -/

def hexValue (c : Char) : Option ℕ :=
  if '0' ≤ c ∧ c ≤ '9' then some (c.toNat - 48)
  else if 'a' ≤ c ∧ c ≤ 'f' then some (c.toNat - 87)
  else if 'A' ≤ c ∧ c ≤ 'F' then some (c.toNat - 55)
  else none

/-- Four hexadecimal digits and what follows them. -/
def scanHex : List Char → Option (ℕ × List Char)
  | a :: b :: c :: d :: rest => do
      let a ← hexValue a
      let b ← hexValue b
      let c ← hexValue c
      let d ← hexValue d
      return (a * 4096 + b * 256 + c * 16 + d, rest)
  | _ => none

/-- A code unit written as an escape. A high surrogate must be followed by an
escaped low one; a text that leaves either of them alone denotes no string. -/
def scanUnicode (cs : List Char) : Option (Char × List Char) := do
  let (n, rest) ← scanHex cs
  if 0xD800 ≤ n ∧ n < 0xDC00 then
    match rest with
    | '\\' :: 'u' :: rest => do
        let (m, rest) ← scanHex rest
        if 0xDC00 ≤ m ∧ m < 0xE000 then
          return (Char.ofNat (0x10000 + (n - 0xD800) * 1024 + (m - 0xDC00)), rest)
        else none
    | _ => none
  else if 0xDC00 ≤ n ∧ n < 0xE000 then none
  else return (Char.ofNat n, rest)

/-- The character an escape denotes, after its backslash. -/
def scanEscape : List Char → Option (Char × List Char)
  | '"' :: rest => some ('"', rest)
  | '\\' :: rest => some ('\\', rest)
  | '/' :: rest => some ('/', rest)
  | 'b' :: rest => some ('\x08', rest)
  | 'f' :: rest => some ('\x0c', rest)
  | 'n' :: rest => some ('\n', rest)
  | 'r' :: rest => some ('\r', rest)
  | 't' :: rest => some ('\t', rest)
  | 'u' :: rest => scanUnicode rest
  | _ => none

/-- The characters of a string literal after its opening quote. Unescaped control
characters are refused. -/
def scanString : ℕ → List Char → Option (List Char × List Char)
  | 0, _ => none
  | _ + 1, [] => none
  | fuel + 1, c :: rest =>
      if c = '"' then some ([], rest)
      else if c = '\\' then do
        let (decoded, rest) ← scanEscape rest
        let (chars, rest) ← scanString fuel rest
        return (decoded :: chars, rest)
      else if c.toNat < 0x20 then none
      else do
        let (chars, rest) ← scanString fuel rest
        return (c :: chars, rest)

/-! ## Numbers -/

/-- A decimal point with at least one digit after it, or nothing. -/
def scanFraction : List Char → List Char × List Char
  | '.' :: rest =>
      let digits := rest.takeWhile Char.isDigit
      if digits.isEmpty then ([], '.' :: rest)
      else ('.' :: digits, rest.dropWhile Char.isDigit)
  | cs => ([], cs)

/-- An exponent with at least one digit, or nothing. -/
def scanExponent : List Char → List Char × List Char
  | c :: rest =>
      if c = 'e' ∨ c = 'E' then
        let (sign, unsigned) := match rest with
          | '+' :: tail => (['+'], tail)
          | '-' :: tail => (['-'], tail)
          | tail => ([], tail)
        let digits := unsigned.takeWhile Char.isDigit
        if digits.isEmpty then ([], c :: rest)
        else (c :: sign ++ digits, unsigned.dropWhile Char.isDigit)
      else ([], c :: rest)
  | [] => ([], [])

/-- The digits of an integer without superfluous leading zeros. -/
def scanInteger : List Char → Option (List Char × List Char)
  | '0' :: rest => some (['0'], rest)
  | c :: rest =>
      if c.isDigit then
        some ((c :: rest).takeWhile Char.isDigit, (c :: rest).dropWhile Char.isDigit)
      else none
  | [] => none

def parseNumber (hooks : Hooks ε) (negative : Bool) (cs : List Char) :
    Except ε (Json × List Char) :=
  match scanInteger cs with
  | none => .error hooks.invalid
  | some (digits, rest) => do
      let (fraction, rest) := scanFraction rest
      let (exponent, rest) := scanExponent rest
      if fraction.isEmpty && exponent.isEmpty then do
        let magnitude : ℤ := (Nat.ofDigitChars 10 digits 0 : ℕ)
        let n ← hooks.parseInt (if negative then -magnitude else magnitude)
        return (.int n, rest)
      else do
        let sign := if negative then ['-'] else []
        let value ← hooks.parseFloat (String.ofList (sign ++ digits ++ fraction ++ exponent))
        return (value, rest)

/-! ## Values -/

/-- A string literal after its opening quote. -/
def parseString (hooks : Hooks ε) (cs : List Char) : Except ε (String × List Char) :=
  match scanString (cs.length + 1) cs with
  | none => .error hooks.invalid
  | some (chars, rest) => .ok (String.ofList chars, rest)

/-- A value that is neither a string nor a container. -/
def parseScalar (hooks : Hooks ε) : List Char → Except ε (Json × List Char)
  | 'n' :: 'u' :: 'l' :: 'l' :: rest => .ok (.null, rest)
  | 't' :: 'r' :: 'u' :: 'e' :: rest => .ok (.bool true, rest)
  | 'f' :: 'a' :: 'l' :: 's' :: 'e' :: rest => .ok (.bool false, rest)
  | 'N' :: 'a' :: 'N' :: rest => do return (← hooks.parseConstant "NaN", rest)
  | 'I' :: 'n' :: 'f' :: 'i' :: 'n' :: 'i' :: 't' :: 'y' :: rest => do
      return (← hooks.parseConstant "Infinity", rest)
  | '-' :: 'I' :: 'n' :: 'f' :: 'i' :: 'n' :: 'i' :: 't' :: 'y' :: rest => do
      return (← hooks.parseConstant "-Infinity", rest)
  | '-' :: rest => parseNumber hooks true rest
  | cs => parseNumber hooks false cs

mutual

/-- One value at the head of the text, and the text after it. -/
def parseValue (hooks : Hooks ε) : ℕ → List Char → Except ε (Json × List Char)
  | 0, _ => .error hooks.invalid
  | fuel + 1, cs =>
      match cs with
      | '"' :: rest => do
          let (s, rest) ← parseString hooks rest
          return (.str s, rest)
      | '[' :: rest =>
          match skipSpace rest with
          | ']' :: rest => .ok (.arr [], rest)
          | rest => do
              let (x, rest) ← parseValue hooks fuel rest
              let (items, rest) ← parseItems hooks fuel (skipSpace rest)
              return (.arr (x :: items), rest)
      | '{' :: rest =>
          match skipSpace rest with
          | '}' :: rest => do
              return (.obj (← hooks.object []), rest)
          | rest => do
              let (field, rest) ← parseField hooks fuel rest
              let (fields, rest) ← parseFields hooks fuel (skipSpace rest)
              return (.obj (← hooks.object (field :: fields)), rest)
      | cs => parseScalar hooks cs

/-- What follows an array element. -/
def parseItems (hooks : Hooks ε) : ℕ → List Char → Except ε (List Json × List Char)
  | 0, _ => .error hooks.invalid
  | fuel + 1, cs =>
      match cs with
      | ']' :: rest => .ok ([], rest)
      | ',' :: rest => do
          let (x, rest) ← parseValue hooks fuel (skipSpace rest)
          let (items, rest) ← parseItems hooks fuel (skipSpace rest)
          return (x :: items, rest)
      | _ => .error hooks.invalid

/-- A key, a colon and a value. -/
def parseField (hooks : Hooks ε) : ℕ → List Char → Except ε ((String × Json) × List Char)
  | 0, _ => .error hooks.invalid
  | fuel + 1, cs =>
      match cs with
      | '"' :: rest => do
          let (key, rest) ← parseString hooks rest
          match skipSpace rest with
          | ':' :: rest => do
              let (value, rest) ← parseValue hooks fuel (skipSpace rest)
              return ((key, value), rest)
          | _ => .error hooks.invalid
      | _ => .error hooks.invalid

/-- What follows an object field. -/
def parseFields (hooks : Hooks ε) : ℕ → List Char →
    Except ε (List (String × Json) × List Char)
  | 0, _ => .error hooks.invalid
  | fuel + 1, cs =>
      match cs with
      | '}' :: rest => .ok ([], rest)
      | ',' :: rest => do
          let (field, rest) ← parseField hooks fuel (skipSpace rest)
          let (fields, rest) ← parseFields hooks fuel (skipSpace rest)
          return (field :: fields, rest)
      | _ => .error hooks.invalid

end

/-- Read a whole text: one value, with whitespace allowed around it. -/
def loads (hooks : Hooks ε) (text : String) : Except ε Json := do
  let cs := text.toList
  let (value, rest) ← parseValue hooks (cs.length + 1) (skipSpace cs)
  if (skipSpace rest).isEmpty then return value else .error hooks.invalid

end Json
