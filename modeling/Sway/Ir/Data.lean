import Mathlib.Data.Vector.Defs

/-! The data of the IR constant model: interned type handles with their structural
contents, the payload of a constant, and value handles into the context's arena.
Handles are indices; what they denote is looked up in a `Context`. -/

namespace SwayIr

/-- A handle into the context's type arena. Types are interned, so two handles are
equal exactly when they name the same structural description. -/
structure IrType where
  index : Nat
  deriving DecidableEq, Repr

/-- Modelled from the spec: `irtype.rs` is not in the sources. The structural
description a type handle stands for. Lengths are the `u64` of the source; a `Vec`
holds fewer than `2 ^ 63` elements, so the conversion `len() as u64` never wraps. -/
inductive TypeContent where
  | unit
  | bool
  | uint (width : UInt16)
  | b256
  | string (len : Nat)
  | array (elmTy : IrType) (len : Nat)
  | struct (fieldTys : List IrType)
  deriving DecidableEq, Repr

/-- Modelled from the spec: the `U256` of `sway_types`, a 256-bit unsigned integer. -/
abbrev U256 := BitVec 256

abbrev B256 := U256

/-- The conversion `U256::from(n)` of a machine word. -/
def U256.ofUInt64 (n : UInt64) : U256 := BitVec.ofNat 256 n.toNat

theorem U256.ofUInt64_inj {n m : UInt64} : U256.ofUInt64 n = U256.ofUInt64 m ↔ n = m := by
  refine ⟨fun same => UInt64.toNat.inj ?_, congrArg _⟩
  have widen := congrArg BitVec.toNat same
  simp only [ofUInt64, BitVec.toNat_ofNat] at widen
  rwa [Nat.mod_eq_of_lt (Nat.lt_trans n.toNat_lt_size (by decide)),
    Nat.mod_eq_of_lt (Nat.lt_trans m.toNat_lt_size (by decide))] at widen

/-- The number a byte string denotes when its first byte is the most significant. -/
def bigEndian (bytes : List UInt8) : Nat := bytes.foldl (fun acc byte => acc * 256 + byte.toNat) 0

/-- Modelled from the spec: `B256::from_be_bytes`. -/
def B256.fromBeBytes (bytes : Mathlib.Vector UInt8 32) : B256 := BitVec.ofNat 256 (bigEndian bytes.toList)

/-- The `len` low bytes of `n`, most significant first. -/
def beBytes : Nat → Nat → List UInt8
  | 0, _ => []
  | len + 1, n => beBytes len (n / 256) ++ [UInt8.ofNat (n % 256)]

theorem length_beBytes (len n : Nat) : (beBytes len n).length = len := by
  induction len generalizing n with
  | zero => rfl
  | succ len ih => simp [beBytes, ih]

/-- Modelled from the spec: reading a digest back as its 32 bytes, in the order
`new_b256` takes them. -/
def B256.toBeBytes (n : B256) : Mathlib.Vector UInt8 32 := ⟨beBytes 32 n.toNat, length_beBytes 32 _⟩

mutual

/-- A constant representation of each of the supported types. -/
inductive ConstantValue where
  | undef
  | unit
  | bool (b : Bool)
  | uint (n : UInt64)
  | u256 (n : U256)
  | b256 (n : B256)
  | string (bytes : List UInt8)
  | array (elems : List Constant)
  | struct (fields : List Constant)

/-- A type and constant value, including `undef` for uninitialized constants. -/
inductive Constant where
  | mk (ty : IrType) (value : ConstantValue)

end

namespace Constant

def ty : Constant → IrType
  | ⟨ty, _⟩ => ty

def value : Constant → ConstantValue
  | ⟨_, value⟩ => value

@[simp] theorem ty_mk (ty : IrType) (value : ConstantValue) : (Constant.mk ty value).ty = ty := rfl

@[simp] theorem value_mk (ty : IrType) (value : ConstantValue) :
    (Constant.mk ty value).value = value := rfl

end Constant

/-- The element constants of an array or struct value. -/
@[simp] def ConstantValue.elems : ConstantValue → List Constant
  | .array elems | .struct elems => elems
  | _ => []

/-- Induction over constants of any nesting depth: a property holds of a constant once
it holds of its elements. -/
theorem Constant.induction {motive : Constant → Prop}
    (step : ∀ ty value, (∀ c ∈ value.elems, motive c) → motive ⟨ty, value⟩) (c : Constant) :
    motive c :=
  Constant.rec (motive_1 := fun value => ∀ c ∈ value.elems, motive c) (motive_2 := motive)
    (motive_3 := fun elems => ∀ c ∈ elems, motive c)
    (fun _ => nomatch ·) (fun _ => nomatch ·) (fun _ _ => nomatch ·) (fun _ _ => nomatch ·)
    (fun _ _ => nomatch ·) (fun _ _ => nomatch ·) (fun _ _ => nomatch ·) (fun _ ih => ih) (fun _ ih => ih)
    step (fun _ => nomatch ·)
    (fun _ _ head tail c member => by
      cases member with
      | head => exact head
      | tail _ member => exact tail c member) c

/-- A handle into the context's value arena. -/
structure Value where
  index : Nat
  deriving DecidableEq, Repr

end SwayIr
