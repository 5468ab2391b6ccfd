/-
# Field types

The annotated types of the contract's models. Each is the set of values its
validators accept, so a model can only be built from fields that passed, and each
comes with its codec. Errors carry the path of the field they are about: an error
starts with an empty path, and every enclosing field puts its name in front.
-/

import Containment.Json.Codec
import Containment.Models.Encoding
import Mathlib.Data.List.DropRight

namespace Containment

/-! ## Validation errors -/

/-- What a model reports when one of its own validators raises `ValueError`. -/
def reject (message : String) : PyError := .validationError "" ("Value error, " ++ message)

/-- Put a field name in front of an error's path. -/
def locate (name : String) : PyError → PyError
  | .validationError path message =>
      .validationError (if path = "" then name else name ++ "." ++ path) message
  | .valueError message => .validationError name ("Value error, " ++ message)
  | error => error

/-- Check the value a model's constructor is given for one of its fields. -/
def validate {α : Type} (name : String) (check : α → Except PyError Unit) (x : α) :
    Except PyError { x : α // check x = .ok () } :=
  (Json.checked check x).mapError (locate name)

theorem validate_of_ok {α : Type} {name : String} {check : α → Except PyError Unit} {x : α}
    (h : check x = .ok ()) : validate name check x = .ok ⟨x, h⟩ := by
  rw [validate, Json.checked_of_ok h]
  rfl

theorem validate_eq_ok {α : Type} {name : String} {check : α → Except PyError Unit} {x : α}
    {y : { x : α // check x = .ok () }} (h : validate name check x = .ok y) : y.1 = x := by
  by_cases hcheck : check x = .ok ()
  · rw [validate_of_ok hcheck, Except.ok.injEq] at h
    exact h ▸ rfl
  · rw [validate, Json.checked] at h
    split at h
    · contradiction
    · cases h

/-- Check the value given for a field that may be absent. -/
def validateOption {α : Type} (name : String) (check : α → Except PyError Unit) :
    Option α → Except PyError (Option { x : α // check x = .ok () })
  | none => .ok none
  | some x => some <$> validate name check x

theorem map_val_validateOption {α : Type} {name : String} {check : α → Except PyError Unit}
    {x : Option α} {y : Option { x : α // check x = .ok () }}
    (h : validateOption name check x = .ok y) : y.map Subtype.val = x := by
  cases x with
  | none => rw [← Except.ok.inj h]; rfl
  | some x =>
      obtain ⟨z, hz, rfl⟩ := map_eq_ok.mp h
      rw [Option.map_some, validate_eq_ok hz]

/-! ## Texts -/

def isLower (c : Char) : Bool := 'a' ≤ c && c ≤ 'z'
def isDecimal (c : Char) : Bool := '0' ≤ c && c ≤ '9'

def matchPattern (pattern : String) (matched : String → Bool) (s : String) :
    Except PyError Unit :=
  ensure (matched s = true)
    (.validationError "" ("String should match pattern '" ++ pattern ++ "'"))

def isOpaqueIdChar (c : Char) : Bool :=
  isLower c || isDecimal c || c = '.' || c = '_' || c = ':' || c = '-'

/-- One lowercase letter or digit, then at most 127 further identifier characters. -/
def isOpaqueId (s : String) : Bool :=
  match s.toList with
  | [] => false
  | c :: rest => (isLower c || isDecimal c) && rest.length ≤ 127 && rest.all isOpaqueIdChar

def opaqueIdCheck : String → Except PyError Unit :=
  matchPattern "^[a-z0-9](?:[a-z0-9._:-]\x7b0,127\x7d)$" isOpaqueId

abbrev OpaqueId : Type := { s : String // opaqueIdCheck s = .ok () }

def sha256HexCheck : String → Except PyError Unit :=
  matchPattern "^[0-9a-f]\x7b64\x7d$" isSha256Hex

abbrev Sha256Hex : Type := { s : String // sha256HexCheck s = .ok () }

theorem genesisHash_check : sha256HexCheck genesisHash = .ok () := by decide

/-- Text order, by code point. -/
def textLt (s t : String) : Prop := s.toList < t.toList

instance (s t : String) : Decidable (textLt s t) :=
  inferInstanceAs (Decidable (s.toList < t.toList))

/-- `_sorted_unique`: equal to its own sorted set. -/
def sortedUnique (values : List String) (label : String) : Except PyError Unit :=
  ensure (values.Pairwise textLt)
    (reject (label ++ " must be sorted and contain no duplicates"))

/-- The parts of a text between occurrences of a separator. -/
def splitText (separator : Char) (s : String) : List (List Char) := s.toList.splitOn separator

/-- A DNS label: letters, digits and inner hyphens. -/
def isDnsLabel (label : List Char) : Bool :=
  match label with
  | [] => false
  | c :: rest =>
      (isLower c || isDecimal c) &&
        (c :: rest).all (fun d => isLower d || isDecimal d || d = '-') &&
        ((c :: rest).getLast? ≠ some '-')

/-- `str(PurePosixPath(value))` of an absolute path that does not start with two
slashes. -/
def purePosixPath (s : String) : String :=
  let parts := (splitText '/' s).filter fun part => part ≠ [] ∧ part ≠ ['.']
  String.ofList ('/' :: (parts.intersperse ['/']).flatten)

/-- `value.rstrip("/")`. -/
def rstripSlash (s : String) : String := String.ofList (s.toList.rdropWhile (· = '/'))

def hasDoubleSlash : List Char → Bool
  | a :: b :: rest => (a = '/' && b = '/') || hasDoubleSlash (b :: rest)
  | _ => false

variable (P : Platform)

/-- `_canonical_host`. -/
def canonicalHost (value : String) : Except PyError Unit := do
  requireNfc P value "host"
  ensure (value = P.lower value ∧ value.toList.getLast? ≠ some '.' ∧ '*' ∉ value.toList)
    (reject "host must be lowercase, exact, and contain no wildcard")
  match P.ipAddress value with
  | some canonical =>
      ensure (canonical = value) (reject ("IP address must use canonical spelling: " ++ canonical))
  | none => do
      ensure ((splitText '.' value).all fun label => label.length ≤ 63 && isDnsLabel label)
        (reject "host must be an ASCII DNS name or canonical IP")
      ensure (value.toList.length ≤ 253) (reject "DNS name is too long")

/-- `_canonical_cidr`. -/
def canonicalCidr (value : String) : Except PyError Unit := do
  requireNfc P value "CIDR"
  match P.ipNetwork value with
  | none => .error (reject "CIDR must be a canonical network address")
  | some canonical =>
      ensure (canonical = value) (reject ("CIDR must use canonical spelling: " ++ canonical))

/-- `_canonical_path_prefix`. -/
def canonicalPathPrefix (value : String) : Except PyError Unit := do
  requireNfc P value "path prefix"
  ensure (value.toList.head? = some '/' ∧ '?' ∉ value.toList ∧ '#' ∉ value.toList ∧
      '\\' ∉ value.toList)
    (reject "path prefix must be an absolute URL path only")
  ensure ('%' ∉ value.toList)
    (reject "percent escapes are forbidden in manifest path prefixes")
  ensure (hasDoubleSlash value.toList = false ∧
      (splitText '/' value).all fun part => part ≠ ['.'] && part ≠ ['.', '.'])
    (reject "path prefix must not contain empty or dot segments")
  ensure (purePosixPath value = rstripSlash value ∨ value = "/")
    (reject "path prefix is not normalized")

abbrev Host : Type := { s : String // canonicalHost P s = .ok () }
abbrev CanonicalCidr : Type := { s : String // canonicalCidr P s = .ok () }
abbrev CanonicalPathPrefix : Type := { s : String // canonicalPathPrefix P s = .ok () }

/-- A string field that must be NFC. -/
def nfcCheck (label : String) (value : String) : Except PyError Unit := requireNfc P value label

/-! ## Integers -/

def intRange (low high n : ℤ) : Except PyError Unit := do
  ensure (low ≤ n)
    (.validationError "" ("Input should be greater than or equal to " ++ toString low))
  ensure (n ≤ high)
    (.validationError "" ("Input should be less than or equal to " ++ toString high))

abbrev IntIn (low high : ℤ) : Type := { n : ℤ // intRange low high n = .ok () }

abbrev SafeNonNegativeInt : Type := IntIn 0 maxSafeInteger
abbrev SafePositiveInt : Type := IntIn 1 maxSafeInteger
abbrev Port : Type := IntIn 1 65535

theorem intRange_eq_ok {low high n : ℤ} :
    intRange low high n = .ok () ↔ low ≤ n ∧ n ≤ high := by
  rw [intRange, bind_unit_eq_ok, ensure_eq_ok, ensure_eq_ok]

theorem IntIn.le {low high : ℤ} (n : IntIn low high) : low ≤ n.1 := (intRange_eq_ok.mp n.2).1

theorem IntIn.le_high {low high : ℤ} (n : IntIn low high) : n.1 ≤ high :=
  (intRange_eq_ok.mp n.2).2

/-! ## Codecs -/

namespace Codecs

open Json

def notString : PyError := .validationError "" "Input should be a valid string"
def notInt : PyError := .validationError "" "Input should be a valid integer"
def notArray : PyError := .validationError "" "Input should be a valid tuple"

def text : Codec PyError String := .string notString
def opaqueId : Codec PyError OpaqueId := .ofString notString opaqueIdCheck
def sha256Hex : Codec PyError Sha256Hex := .ofString notString sha256HexCheck
def utcTimestamp : Codec PyError UtcTimestamp := .ofString notString validateTimestamp
def host : Codec PyError (Host P) := .ofString notString (canonicalHost P)
def cidr : Codec PyError (CanonicalCidr P) := .ofString notString (canonicalCidr P)
def pathPrefix : Codec PyError (CanonicalPathPrefix P) :=
  .ofString notString (canonicalPathPrefix P)
def intIn (low high : ℤ) : Codec PyError (IntIn low high) := .ofInt notInt (intRange low high)
def safeNonNegativeInt : Codec PyError SafeNonNegativeInt := intIn 0 maxSafeInteger
def safePositiveInt : Codec PyError SafePositiveInt := intIn 1 maxSafeInteger
def port : Codec PyError Port := intIn 1 65535
def canonicalBool : Codec PyError Bool := .bool (reject "value must be a JSON boolean")
def canonicalTrue : Codec PyError Unit :=
  .literalBool true (reject "value must be the JSON boolean true")

def literal (value : String) : Codec PyError Unit :=
  .literalString value (.validationError "" ("Input should be '" ++ value ++ "'"))

def optionalOpaqueId : Codec PyError (Option OpaqueId) :=
  opaqueId.option fun _ h => nomatch h

def optionalSha256Hex : Codec PyError (Option Sha256Hex) :=
  sha256Hex.option fun _ h => nomatch h

def optionalSafeInt : Codec PyError (Option SafeNonNegativeInt) :=
  safeNonNegativeInt.option fun _ h => nomatch h

variable {α : Type}

/-- A field without a default. -/
def required (name : String) (c : Codec PyError α) : Record PyError α :=
  .field name c (.error (.validationError name "Field required")) (locate name)

/-- A field with a default. -/
def defaulted (name : String) (c : Codec PyError α) (default : α) : Record PyError α :=
  .field name c (.ok default) (locate name)

/-- The two leading fields of every signed body. -/
def header : Record PyError (Unit × Unit) :=
  (defaulted "protocol" (literal protocol) ()).and
    (defaulted "schema_version" (literal schemaVersion) ())

/-- `ContractModel`: a closed object. -/
def model (r : Record PyError α) (hnodup : decide r.names.Nodup = true) : Codec PyError α :=
  r.codec (.validationError "" "Input should be a valid dictionary or instance")
    (fun name => .validationError name "Extra inputs are not permitted")
    (of_decide_eq_true hnodup)

end Codecs

end Containment
