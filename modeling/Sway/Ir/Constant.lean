import Sway.Ir.Irtype

/-! `constant.rs`: the typed constructors, the allocating `get` family, enum
extraction and the context-aware equality. A constructor that interns a type takes the
context and returns the grown context with the constant. A failed `assert!` is `none`. -/

namespace SwayIr.Constant

def newUnit (context : Context) : Constant := ⟨IrType.getUnit context, .unit⟩

def newBool (context : Context) (b : Bool) : Constant := ⟨IrType.getBool context, .bool b⟩

/-- For numbers bigger than `u64` see `newUint256`. -/
def newUint (context : Context) (nbits : UInt16) (n : UInt64) : Context × Constant :=
  let ty := IrType.newUint context nbits
  (ty.1, ⟨ty.2, if nbits = 256 then .u256 (U256.ofUInt64 n) else .uint n⟩)

def newUint256 (context : Context) (n : U256) : Context × Constant :=
  let ty := IrType.newUint context 256
  (ty.1, ⟨ty.2, .u256 n⟩)

def newB256 (context : Context) (bytes : Mathlib.Vector UInt8 32) : Constant :=
  ⟨IrType.getB256 context, .b256 (B256.fromBeBytes bytes)⟩

def newString (context : Context) (string : List UInt8) : Context × Constant :=
  let ty := IrType.newStringArray context string.length
  (ty.1, ⟨ty.2, .string string⟩)

def newArray (context : Context) (elmTy : IrType) (elems : List Constant) : Context × Constant :=
  let ty := IrType.newArray context elmTy elems.length
  (ty.1, ⟨ty.2, .array elems⟩)

def newStruct (context : Context) (fieldTys : List IrType) (fields : List Constant) : Context × Constant :=
  let ty := IrType.newStruct context fieldTys
  (ty.1, ⟨ty.2, .struct fields⟩)

def getUndef (ty : IrType) : Constant := ⟨ty, .undef⟩

def getUnit (context : Context) : Context × Value :=
  Value.newConstant context (newUnit context)

def getBool (context : Context) (value : Bool) : Context × Value :=
  Value.newConstant context (newBool context value)

def getUint (context : Context) (nbits : UInt16) (value : UInt64) : Context × Value :=
  let newConst := newUint context nbits value
  Value.newConstant newConst.1 newConst.2

def getUint256 (context : Context) (value : U256) : Context × Value :=
  let newConst := newUint256 context value
  Value.newConstant newConst.1 newConst.2

def getB256 (context : Context) (value : Mathlib.Vector UInt8 32) : Context × Value :=
  Value.newConstant context (newB256 context value)

def getString (context : Context) (value : List UInt8) : Context × Value :=
  let newConst := newString context value
  Value.newConstant newConst.1 newConst.2

/-- The `value` must be created as an array constant first, using `newArray`. -/
def getArray (context : Context) (value : Constant) : Option (Context × Value) :=
  if value.ty.isArray context then some (Value.newConstant context value) else none

/-- The `value` must be created as a struct constant first, using `newStruct`. -/
def getStruct (context : Context) (value : Constant) : Option (Context × Value) :=
  if value.ty.isStruct context then some (Value.newConstant context value) else none

/-- Returns the tag and the value of an enum constant if `self` is an enum constant,
otherwise `none`. -/
def extractEnumTagAndValue (self : Constant) (context : Context) : Option (Constant × Constant) :=
  if !self.ty.isEnum context then none
  else
    match self.value with
    | .struct [tag, value] => some (tag, value)
    | _ => none

mutual

/-- Compare two constant values. Can't be `BEq` because of the context. -/
def eq (self : Constant) (context : Context) (other : Constant) : Bool :=
  match self, other with
  | ⟨ty, value⟩, ⟨otherTy, otherValue⟩ => ty.eq context otherTy && eqValue context value otherValue

/-- The comparison of the payloads in `Constant::eq`. Two `undef`s are *not* equal.
Array and struct elements are compared pairwise as far as the shorter list goes. -/
def eqValue (context : Context) : ConstantValue → ConstantValue → Bool
  | .undef, _ | _, .undef => false
  | .unit, .unit => true
  | .bool l0, .bool r0 => l0 == r0
  | .uint l0, .uint r0 => l0 == r0
  | .u256 l0, .u256 r0 => l0 == r0
  | .b256 l0, .b256 r0 => l0 == r0
  | .string l0, .string r0 => l0 == r0
  | .array l0, .array r0 | .struct l0, .struct r0 => eqZip context l0 r0
  | _, _ => false

/-- The closure `l0.iter().zip(r0.iter()).all(|(l0, r0)| l0.eq(context, r0))`. -/
def eqZip (context : Context) : List Constant → List Constant → Bool
  | l0 :: ls, r0 :: rs => l0.eq context r0 && eqZip context ls rs
  | _, _ => true

end

variable {context : Context}

@[simp] theorem eq_mk (ty otherTy : IrType) (value otherValue : ConstantValue) :
    (Constant.mk ty value).eq context ⟨otherTy, otherValue⟩ =
      (ty.eq context otherTy && eqValue context value otherValue) := rfl

@[simp] theorem eqValue_undef_left (value : ConstantValue) : eqValue context .undef value = false := by
  cases value <;> rfl

@[simp] theorem eqValue_undef_right (value : ConstantValue) : eqValue context value .undef = false := by
  cases value <;> rfl

@[simp] theorem extractEnumTagAndValue_getUndef (ty : IrType) :
    (getUndef ty).extractEnumTagAndValue context = none := by
  simp [extractEnumTagAndValue, getUndef]

theorem extractEnumTagAndValue_eq_some {self tag value : Constant} :
    self.extractEnumTagAndValue context = some (tag, value) ↔
      self.ty.isEnum context = true ∧ self.value = .struct [tag, value] := by
  unfold extractEnumTagAndValue
  split
  next different => simp_all
  next enum =>
    split <;> simp_all

@[simp] theorem eqValue_unit : eqValue context .unit .unit = true := rfl

@[simp] theorem eqValue_bool (l0 r0 : Bool) : eqValue context (.bool l0) (.bool r0) = (l0 == r0) := rfl

@[simp] theorem eqValue_uint (l0 r0 : UInt64) : eqValue context (.uint l0) (.uint r0) = (l0 == r0) := rfl

@[simp] theorem eqValue_u256 (l0 r0 : U256) : eqValue context (.u256 l0) (.u256 r0) = (l0 == r0) := rfl

@[simp] theorem eqValue_b256 (l0 r0 : B256) : eqValue context (.b256 l0) (.b256 r0) = (l0 == r0) := rfl

@[simp] theorem eqValue_string (l0 r0 : List UInt8) :
    eqValue context (.string l0) (.string r0) = (l0 == r0) := rfl

@[simp] theorem eqValue_array (l0 r0 : List Constant) :
    eqValue context (.array l0) (.array r0) = eqZip context l0 r0 := rfl

@[simp] theorem eqValue_struct (l0 r0 : List Constant) :
    eqValue context (.struct l0) (.struct r0) = eqZip context l0 r0 := rfl

@[simp] theorem eqZip_nil_left (r0 : List Constant) : eqZip context [] r0 = true := rfl

@[simp] theorem eqZip_nil_right (l0 : List Constant) : eqZip context l0 [] = true := by
  cases l0 <;> rfl

@[simp] theorem eqZip_cons (l r : Constant) (ls rs : List Constant) :
    eqZip context (l :: ls) (r :: rs) = (l.eq context r && eqZip context ls rs) := rfl

theorem eqZip_eq_all_zip (context : Context) (l0 r0 : List Constant) :
    eqZip context l0 r0 = (l0.zip r0).all (fun pair => pair.1.eq context pair.2) := by
  induction l0 generalizing r0 with
  | nil => rfl
  | cons l ls ih => cases r0 <;> simp [ih]

end SwayIr.Constant
