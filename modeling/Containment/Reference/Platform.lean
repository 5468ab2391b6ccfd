/-
# A platform to run on

One instance of the platform, for concrete runs. SHA-256 is the real compression
function. Its all-zero digest, which no known input has, is replaced by another
constant, because the ledger reserves that text for the start of a chain. A keyed
digest takes the place of Ed25519: it has the same lengths and verifies what it
signs, and no result relies on its strength. Normalization is the identity and
addresses are IPv4, which is how the real functions act on the ASCII texts and the
addresses of these runs.
-/

import Containment.Models.Signing

namespace Containment

namespace Sha256

def constants : List UInt32 :=
  [0x428a2f98, 0x71374491, 0xb5c0fbcf, 0xe9b5dba5, 0x3956c25b, 0x59f111f1, 0x923f82a4, 0xab1c5ed5,
    0xd807aa98, 0x12835b01, 0x243185be, 0x550c7dc3, 0x72be5d74, 0x80deb1fe, 0x9bdc06a7, 0xc19bf174,
    0xe49b69c1, 0xefbe4786, 0x0fc19dc6, 0x240ca1cc, 0x2de92c6f, 0x4a7484aa, 0x5cb0a9dc, 0x76f988da,
    0x983e5152, 0xa831c66d, 0xb00327c8, 0xbf597fc7, 0xc6e00bf3, 0xd5a79147, 0x06ca6351, 0x14292967,
    0x27b70a85, 0x2e1b2138, 0x4d2c6dfc, 0x53380d13, 0x650a7354, 0x766a0abb, 0x81c2c92e, 0x92722c85,
    0xa2bfe8a1, 0xa81a664b, 0xc24b8b70, 0xc76c51a3, 0xd192e819, 0xd6990624, 0xf40e3585, 0x106aa070,
    0x19a4c116, 0x1e376c08, 0x2748774c, 0x34b0bcb5, 0x391c0cb3, 0x4ed8aa4a, 0x5b9cca4f, 0x682e6ff3,
    0x748f82ee, 0x78a5636f, 0x84c87814, 0x8cc70208, 0x90befffa, 0xa4506ceb, 0xbef9a3f7, 0xc67178f2]

/-- The eight words of the running state. -/
structure Words where
  a : UInt32
  b : UInt32
  c : UInt32
  d : UInt32
  e : UInt32
  f : UInt32
  g : UInt32
  h : UInt32

def initial : Words :=
  ⟨0x6a09e667, 0xbb67ae85, 0x3c6ef372, 0xa54ff53a, 0x510e527f, 0x9b05688c, 0x1f83d9ab, 0x5be0cd19⟩

def rotateRight (x n : UInt32) : UInt32 := (x >>> n) ||| (x <<< (32 - n))

/-- The message with its end mark, zeros up to a block, and its length in bits. -/
def pad (message : Bytes) : Bytes :=
  let bits := message.length * 8
  message ++ 0x80 :: (List.replicate ((119 - message.length % 64) % 64) 0 ++
    (List.range 8).map fun i => (bits / 256 ^ (7 - i)).toUInt8)

/-- Octets as big-endian words. -/
def toWords : Bytes → List UInt32
  | a :: b :: c :: d :: rest =>
      ((a.toUInt32 <<< 24) ||| (b.toUInt32 <<< 16) ||| (c.toUInt32 <<< 8) ||| d.toUInt32) ::
        toWords rest
  | _ => []

/-- Further words of the schedule, newest first. -/
def extend : ℕ → List UInt32 → List UInt32
  | 0, recent => recent
  | count + 1, recent =>
      let at' (i : ℕ) : UInt32 := recent.getD i 0
      let s₀ := rotateRight (at' 14) 7 ^^^ rotateRight (at' 14) 18 ^^^ (at' 14 >>> 3)
      let s₁ := rotateRight (at' 1) 17 ^^^ rotateRight (at' 1) 19 ^^^ (at' 1 >>> 10)
      extend count ((at' 15 + s₀ + at' 6 + s₁) :: recent)

def schedule (block : List UInt32) : List UInt32 := (extend 48 block.reverse).reverse

def round (s : Words) (step : UInt32 × UInt32) : Words :=
  let s₁ := rotateRight s.e 6 ^^^ rotateRight s.e 11 ^^^ rotateRight s.e 25
  let choice := (s.e &&& s.f) ^^^ ((s.e ^^^ 0xffffffff) &&& s.g)
  let t₁ := s.h + s₁ + choice + step.1 + step.2
  let s₀ := rotateRight s.a 2 ^^^ rotateRight s.a 13 ^^^ rotateRight s.a 22
  let majority := (s.a &&& s.b) ^^^ (s.a &&& s.c) ^^^ (s.b &&& s.c)
  ⟨t₁ + (s₀ + majority), s.a, s.b, s.c, s.d + t₁, s.e, s.f, s.g⟩

def compress (s : Words) (block : List UInt32) : Words :=
  let t := (constants.zip (schedule block)).foldl round s
  ⟨s.a + t.a, s.b + t.b, s.c + t.c, s.d + t.d, s.e + t.e, s.f + t.f, s.g + t.g, s.h + t.h⟩

/-- One block after the other. -/
def absorb : ℕ → Words → List UInt32 → Words
  | 0, s, _ => s
  | blocks + 1, s, words => absorb blocks (compress s (words.take 16)) (words.drop 16)

def digest (message : Bytes) : Words :=
  let words := toWords (pad message)
  absorb (words.length / 16) initial words

def hexWord (w : UInt32) : List Char :=
  (List.range 8).map fun i => Json.hexDigit (w.toNat / 16 ^ (7 - i) % 16)

def hex (s : Words) : List Char :=
  hexWord s.a ++ hexWord s.b ++ hexWord s.c ++ hexWord s.d ++ hexWord s.e ++ hexWord s.f ++
    hexWord s.g ++ hexWord s.h

theorem isHexDigit_hexDigit {n : ℕ} (h : n < 16) : isHexDigit (Json.hexDigit n) = true := by
  interval_cases n <;> decide

theorem hexWord_spec (w : UInt32) :
    (hexWord w).length = 8 ∧ (hexWord w).all isHexDigit = true := by
  refine ⟨by simp [hexWord], ?_⟩
  rw [List.all_eq_true]
  intro c hc
  obtain ⟨i, -, rfl⟩ := List.mem_map.mp hc
  exact isHexDigit_hexDigit (Nat.mod_lt _ (by decide))

theorem hex_spec (s : Words) : (hex s).length = 64 ∧ (hex s).all isHexDigit = true := by
  simp only [hex, List.length_append, List.all_append, (hexWord_spec _).1, (hexWord_spec _).2,
    Bool.and_self, and_self]

/-- A digest that is never the all-zero text. -/
def hexDigest (message : Bytes) : String :=
  let text := String.ofList (hex (digest message))
  if text = genesisHash then String.ofList (List.replicate 64 'f') else text

theorem isSha256Hex_hexDigest (message : Bytes) : isSha256Hex (hexDigest message) = true := by
  unfold hexDigest
  dsimp only
  split_ifs with h
  · decide
  · obtain ⟨hlength, hall⟩ := hex_spec (digest message)
    rw [isSha256Hex, String.toList_ofList, hlength, hall]
    rfl

theorem hexDigest_ne_genesis (message : Bytes) : hexDigest message ≠ genesisHash := by
  unfold hexDigest
  dsimp only
  split_ifs with h
  · decide
  · exact h

example : hexDigest (utf8 "abc") =
    "ba7816bf8f01cfea414140de5dae2223b00361a396177a9cb410ff61f20015ad" := by decide +kernel

end Sha256

/-! ## IPv4 -/

namespace Ipv4

/-- A number below 256 without leading zeros. -/
def octet (digits : List Char) : Option ℕ :=
  if digits ≠ [] ∧ digits.length ≤ 3 ∧ digits.all Char.isDigit ∧
      (digits.head? = some '0' → digits = ['0']) ∧ Nat.ofDigitChars 10 digits 0 < 256 then
    some (Nat.ofDigitChars 10 digits 0)
  else none

/-- The 32-bit value of a dotted address. -/
def parse (cs : List Char) : Option ℕ :=
  match cs.splitOn '.' with
  | [a, b, c, d] => do
      return (((← octet a) * 256 + (← octet b)) * 256 + (← octet c)) * 256 + (← octet d)
  | _ => none

/-- An address and the length of its network part. -/
def parseNetwork (cs : List Char) : Option (ℕ × ℕ) :=
  match cs.splitOn '/' with
  | [address, width] => do
      let address ← parse address
      let width ← octet width
      if width ≤ 32 ∧ address % 2 ^ (32 - width) = 0 then some (address, width) else none
  | _ => none

def contains (network address : List Char) : Bool :=
  match parseNetwork network, parse address with
  | some (base, width), some value => value / 2 ^ (32 - width) = base / 2 ^ (32 - width)
  | _, _ => false

end Ipv4

/-! ## The platform -/

/-- The octets of a keyed digest. -/
def keyedTag (publicKey message : Bytes) : Bytes :=
  (Sha256.hexDigest (publicKey ++ message)).toList.map fun c => c.toNat.toUInt8

/-- The first 32 octets of a key, filled up with zeros. -/
def publicOctets (key : Bytes) : Bytes := (key ++ List.replicate 32 0).take 32

def referencePlatform : Platform where
  sha256Hex := Sha256.hexDigest
  ed25519Public := publicOctets
  ed25519Sign key message := keyedTag (publicOctets key) message
  ed25519Verify publicKey signature message := signature = keyedTag publicKey message
  normalizeNfc s := s
  lower s := String.ofList (s.toList.map Char.toLower)
  ipAddress s := (Ipv4.parse s.toList).map fun _ => s
  ipNetwork s := (Ipv4.parseNetwork s.toList).map fun _ => s
  ipInNetwork address network := Ipv4.contains network.toList address.toList

theorem referencePlatform_lawful : referencePlatform.Lawful where
  digest_hex := Sha256.isSha256Hex_hexDigest
  nfc_ascii _ _ := rfl
  sign_length key message := by
    have h := Sha256.isSha256Hex_hexDigest (publicOctets key ++ message)
    rw [isSha256Hex, Bool.and_eq_true, beq_iff_eq] at h
    simp [referencePlatform, keyedTag, h.1]
  verify_sign key message := by simp [referencePlatform]

end Containment
