/-
# The canonical wire profile

The profile admits UTF-8, NFC text with unique keys, integers in the I-JSON safe
range and no floats, within fixed depth, node and byte limits. A value passes
`validateJsonValue`, is ordered and written compactly, and the resulting text is
its only accepted spelling.

The node budget is one mutable counter that the source threads through the whole
traversal. Whether it runs out does not depend on the order of that traversal,
which is why a reordered object is still accepted when it is read back.
-/

import Containment.Models.Platform

namespace Containment

def protocol : String := "BCP-1"
def schemaVersion : String := "1.0"
def genesisHash : String := String.ofList (List.replicate 64 '0')
def maxSafeInteger : ℤ := 2 ^ 53 - 1
def maxCanonicalJsonBytes : ℕ := 4194304
def maxEventPayloadBytes : ℕ := 1048576
def maxJsonDepth : ℕ := 64
def maxJsonNodes : ℤ := 100000

variable (P : Platform)

/-- Lean strings hold no surrogates, so the source's second check never fires on
a value of this type. -/
def requireNfc (value label : String) : Except PyError Unit :=
  ensure (P.normalizeNfc value = value) (.valueError (label ++ " must be NFC-normalized"))

/-! ## Validation -/

/-- The depth and node checks made on entry to every value. -/
def enterNode (path : String) (depth : ℕ) (budget : ℤ) : Except PyError ℤ := do
  ensure (depth ≤ maxJsonDepth) (.valueError (path ++ ": JSON nesting exceeds 64"))
  ensure (0 ≤ budget - 1) (.valueError "JSON value exceeds 100000 nodes")
  return budget - 1

mutual

/-- `_validate_json_value`: returns the remaining node budget. The source also
returns the tree, which it never changes. -/
def validateJsonValue (path : String) (depth : ℕ) (budget : ℤ) : Json → Except PyError ℤ
  | .null => enterNode path depth budget
  | .bool _ => enterNode path depth budget
  | .int n => do
      let budget ← enterNode path depth budget
      ensure (|n| ≤ maxSafeInteger)
        (.valueError (path ++ ": integer exceeds the I-JSON safe range"))
      return budget
  | .str s => do
      let budget ← enterNode path depth budget
      requireNfc P s path
      return budget
  | .arr items => do
      let budget ← enterNode path depth budget
      validateItems path (depth + 1) budget 0 items
  | .obj fields => do
      let budget ← enterNode path depth budget
      validateFields path (depth + 1) budget [] fields

def validateItems (path : String) (depth : ℕ) (budget : ℤ) (index : ℕ) :
    List Json → Except PyError ℤ
  | [] => .ok budget
  | x :: rest => do
      let budget ← validateJsonValue (path ++ "[" ++ toString index ++ "]") depth budget x
      validateItems path depth budget (index + 1) rest

def validateFields (path : String) (depth : ℕ) (budget : ℤ) (normalizedKeys : List String) :
    List (String × Json) → Except PyError ℤ
  | [] => .ok budget
  | (key, value) :: rest => do
      requireNfc P key (path ++ " object key")
      ensure (P.normalizeNfc key ∉ normalizedKeys)
        (.valueError (path ++ ": duplicate key after NFC normalization"))
      let budget ← validateJsonValue (path ++ "." ++ key) depth budget value
      validateFields path depth budget (P.normalizeNfc key :: normalizedKeys) rest

end

/-! ## Canonical text -/

def canonicalJson (value : Json) : Except PyError String := do
  let _ ← validateJsonValue P "$" 0 maxJsonNodes value
  let encoded := value.orderForJcs.text
  ensure ((utf8 encoded).length ≤ maxCanonicalJsonBytes)
    (.valueError "canonical JSON exceeds the BCP-1 hard byte limit")
  return encoded

def canonicalJsonBytes (value : Json) : Except PyError Bytes := do
  return utf8 (← canonicalJson P value)

def parseSafeInt (n : ℤ) : Except PyError ℤ := do
  ensure (|n| ≤ maxSafeInteger) (.valueError "JSON integer exceeds the I-JSON safe range")
  return n

/-- `_unique_object`, with the keys already read as its accumulator. Those keys are
NFC, so the source's normalized keys and its result hold the same strings. -/
def uniqueObject (seen : List String) :
    List (String × Json) → Except PyError (List (String × Json))
  | [] => .ok []
  | (key, value) :: rest => do
      requireNfc P key "JSON object key"
      ensure (key ∉ seen ∧ P.normalizeNfc key ∉ seen)
        (.valueError ("duplicate JSON object key: " ++ key))
      return (key, value) :: (← uniqueObject (key :: seen) rest)

def strictHooks : Json.Hooks PyError where
  invalid := .valueError "invalid JSON"
  parseInt := parseSafeInt
  parseFloat _ := .error
    (.valueError "floating-point JSON numbers are forbidden; use a string")
  parseConstant value := .error
    (.valueError ("non-finite JSON number " ++ value ++ " is forbidden"))
  object := uniqueObject P []

/-- `parse_canonical_json` on text. -/
def parseCanonicalText (value : String) : Except PyError Json := do
  ensure (value.toList.head? ≠ some '\ufeff') (.valueError "UTF-8 BOM is forbidden")
  ensure ((utf8 value).length ≤ maxCanonicalJsonBytes)
    (.valueError "JSON input exceeds the BCP-1 hard byte limit")
  let parsed ← Json.loads (strictHooks P) value
  let _ ← validateJsonValue P "$" 0 maxJsonNodes parsed
  return parsed

/-- `parse_canonical_json` on octets. -/
def parseCanonicalJson (value : Bytes) : Except PyError Json :=
  match decodeUtf8 value with
  | none => .error (.valueError "invalid UTF-8 JSON")
  | some text => parseCanonicalText P text

/-- Accept a text exactly when it is the canonical spelling of its value. -/
def canonicalizeJsonText (value : String) : Except PyError Unit := do
  requireNfc P value "canonical JSON"
  let canonical ← canonicalJson P (← parseCanonicalText P value)
  ensure (canonical = value)
    (.valueError "JSON text is valid but is not in canonical BCP-1 form")

def payloadSha256 (payload : String) : String := P.sha256Hex (utf8 payload)

/-- The octets hashed for a value under a domain name. -/
def domainPreimage (domain : String) (encoded : Bytes) : Bytes :=
  utf8 protocol ++ 0 :: (utf8 domain ++ 0 :: encoded)

theorem domainPreimage_inj {domain : String} {encoded encoded' : Bytes} :
    domainPreimage domain encoded = domainPreimage domain encoded' ↔ encoded = encoded' := by
  simp [domainPreimage]

/-- The digest of a value under a domain name. -/
def domainHash (domain : String) (value : Json) : Except PyError String := do
  let encoded ← canonicalJsonBytes P value
  return P.sha256Hex (domainPreimage domain encoded)

end Containment
