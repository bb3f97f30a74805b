import Sway.Ir.Context

/-! The type API that `constant.rs` calls, modelled from the spec since `irtype.rs` is
not in the sources. Every constructor is an interning request, the basic types are
looked up, and type equality is a handle comparison. -/

namespace SwayIr.IrType

/-- Modelled from the spec: `Type::get_unit`, a lookup of the interned unit type. -/
def getUnit (context : Context) : IrType := context.lookup .unit

/-- Modelled from the spec: `Type::get_bool`, a lookup of the interned bool type. -/
def getBool (context : Context) : IrType := context.lookup .bool

/-- Modelled from the spec: `Type::get_b256`, a lookup of the interned b256 type. -/
def getB256 (context : Context) : IrType := context.lookup .b256

/-- Modelled from the spec: `Type::new_uint`, an interning request. -/
def newUint (context : Context) (width : UInt16) : Context × IrType :=
  getOrCreateUniqueType context (.uint width)

/-- Modelled from the spec: `Type::new_string_array`, an interning request. -/
def newStringArray (context : Context) (len : Nat) : Context × IrType :=
  getOrCreateUniqueType context (.string len)

/-- Modelled from the spec: `Type::new_array`, an interning request. -/
def newArray (context : Context) (elmTy : IrType) (len : Nat) : Context × IrType :=
  getOrCreateUniqueType context (.array elmTy len)

/-- Modelled from the spec: `Type::new_struct`, an interning request. -/
def newStruct (context : Context) (fieldTys : List IrType) : Context × IrType :=
  getOrCreateUniqueType context (.struct fieldTys)

/-- Modelled from the spec: `Type::is_array`. -/
def isArray (ty : IrType) (context : Context) : Bool :=
  match ty.getContent context with
  | some (.array _ _) => true
  | _ => false

/-- Modelled from the spec: `Type::is_struct`. -/
def isStruct (ty : IrType) (context : Context) : Bool :=
  match ty.getContent context with
  | some (.struct _) => true
  | _ => false

/-- Modelled from the spec: `Type::is_uint`. -/
def isUint (ty : IrType) (context : Context) : Bool :=
  match ty.getContent context with
  | some (.uint _) => true
  | _ => false

/-- Modelled from the spec: `Type::is_enum`. An enum is encoded as a struct of a
discriminant and a payload; the predicate reads that shape only, so any such two-field
struct passes it. -/
def isEnum (ty : IrType) (context : Context) : Bool :=
  match ty.getContent context with
  | some (.struct [tag, _]) => tag.isUint context
  | _ => false

/-- Modelled from the spec: `Type::eq`. Types are interned, so equality is a comparison
of handles. -/
def eq (ty : IrType) (_context : Context) (other : IrType) : Bool := ty == other

variable {context : Context} {t u : TypeContent} {ty other : IrType}

@[simp] theorem eq_iff : ty.eq context other = true ↔ ty = other := beq_iff_eq

@[simp] theorem eq_self : ty.eq context ty = true := beq_self_eq_true ty

theorem getContent_lookup_basic (basic : t ∈ TypeContent.basic) :
    (context.lookup t).getContent context = some t :=
  Context.getContent_lookup (context.basic t basic)

@[simp] theorem getContent_getUnit : (getUnit context).getContent context = some .unit :=
  getContent_lookup_basic (by decide)

@[simp] theorem getContent_getBool : (getBool context).getContent context = some .bool :=
  getContent_lookup_basic (by decide)

@[simp] theorem getContent_getB256 : (getB256 context).getContent context = some .b256 :=
  getContent_lookup_basic (by decide)

/-- On handles whose descriptions are known, a type comparison compares descriptions. -/
theorem eq_iff_content (found : ty.getContent context = some t)
    (same : other.getContent context = some u) : ty.eq context other = true ↔ t = u := by
  rw [eq_iff]
  constructor
  · rintro rfl
    exact Option.some_injective _ (found.symm.trans same)
  · rintro rfl
    exact Context.getContent_inj found same

theorem isEnum_iff : ty.isEnum context = true ↔
    ∃ tag payload, ty.getContent context = some (.struct [tag, payload]) ∧ tag.isUint context = true := by
  unfold isEnum
  split
  next tag payload found => exact ⟨fun uint => ⟨tag, payload, found, uint⟩, fun ⟨_, _, same, uint⟩ => by simp_all⟩
  next different => exact ⟨nofun, fun ⟨tag, payload, found, _⟩ => (different tag payload found).elim⟩

end SwayIr.IrType
