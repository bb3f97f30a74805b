import Mathlib.Data.List.Basic

/-! The parts of the toml and hex crates that the end-to-end test harness reads: TOML
values with their accessors, and hex decoding and encoding of byte strings. A TOML
integer is an i64, kept as its 64 bits; a cast to u64 keeps them. -/

namespace E2eVmTests

/-- A TOML value. The harness never reads a float or a datetime beyond its kind. -/
inductive TomlValue where
  | string (value : String)
  | integer (value : BitVec 64)
  | float
  | boolean (value : Bool)
  | datetime
  | array (items : List TomlValue)
  | table (entries : List (String × TomlValue))

namespace TomlValue

/-- Indexing by a key: the entry of a table, nothing for any other value. -/
def get : TomlValue → String → Option TomlValue
  | table entries, key => entries.lookup key
  | _, _ => none

def asStr : TomlValue → Option String
  | string value => some value
  | _ => none

def asInteger : TomlValue → Option (BitVec 64)
  | integer value => some value
  | _ => none

def asBool : TomlValue → Option Bool
  | boolean value => some value
  | _ => none

def asArray : TomlValue → Option (List TomlValue)
  | array items => some items
  | _ => none

def isTable : TomlValue → Bool
  | table _ => true
  | _ => false

@[simp] theorem get_table (entries : List (String × TomlValue)) (key : String) :
    (table entries).get key = entries.lookup key := rfl

@[simp] theorem asStr_string (value : String) : (string value).asStr = some value := rfl

@[simp] theorem asArray_array (items : List TomlValue) : (array items).asArray = some items := rfl

end TomlValue

/-- The errors of hex::decode. -/
inductive FromHexError where
  | invalidHexCharacter (c : Char) (index : Nat)
  | oddLength
  deriving DecidableEq, Repr

/-- The value of the digit c found at position idx: b'A'..=b'F', b'a'..=b'f' and
b'0'..=b'9', in this order. -/
def val (c : UInt8) (idx : Nat) : Except FromHexError UInt8 :=
  if 65 ≤ c ∧ c ≤ 70 then .ok (c - 65 + 10)
  else if 97 ≤ c ∧ c ≤ 102 then .ok (c - 97 + 10)
  else if 48 ≤ c ∧ c ≤ 57 then .ok (c - 48)
  else .error (.invalidHexCharacter (Char.ofNat c.toNat) idx)

/-- The chunks of two digits from chunk i on, each read high digit first; the first bad
digit stops the collection. -/
def decodePairs : List UInt8 → Nat → Except FromHexError (List UInt8)
  | high :: low :: rest, i => do
    let h ← val high (2 * i)
    let l ← val low (2 * i + 1)
    let tail ← decodePairs rest (i + 1)
    pure ((h <<< 4 ||| l) :: tail)
  | _, _ => pure []

/-- Decoding a string reads its UTF-8 bytes, which must come in pairs. -/
def decode (s : String) : Except FromHexError (List UInt8) :=
  let bytes := s.toUTF8.data.toList
  if bytes.length % 2 ≠ 0 then .error .oddLength else decodePairs bytes 0

/-- Encoding writes two lowercase digits per byte, high digit first. -/
def encode (data : List UInt8) : String :=
  ⟨data.flatMap fun byte => [Nat.digitChar (byte.toNat / 16), Nat.digitChar (byte.toNat % 16)]⟩

/-- The Display text of a decoding error; the character is shown by its Debug text. -/
def FromHexError.display (debugChar : Char → String) : FromHexError → String
  | invalidHexCharacter c index => "Invalid character " ++ debugChar c ++ " at position " ++ toString index
  | oddLength => "Odd number of digits"

end E2eVmTests
