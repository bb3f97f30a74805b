import Sway.Ir.Constant

/-! Well-formedness of constants against the type arena. A constructor that interns a
type returns a constant of that type, but `newArray` and `newStruct` take the element
or field types separately from the elements and check neither, so the result is
well-formed exactly when the caller's arguments agree. -/

namespace SwayIr.Proofs

/-- A payload of the kind a type description records, with its length and the types
of its elements. A 64-bit payload serves every width but 256, which has its own. -/
inductive Fits : TypeContent → ConstantValue → Prop where
  | unit : Fits .unit .unit
  | bool (b : Bool) : Fits .bool (.bool b)
  | uint {width : UInt16} (n : UInt64) (narrow : width ≠ 256) : Fits (.uint width) (.uint n)
  | u256 (n : U256) : Fits (.uint 256) (.u256 n)
  | b256 (n : B256) : Fits .b256 (.b256 n)
  | string {len : Nat} (bytes : List UInt8) (sized : bytes.length = len) : Fits (.string len) (.string bytes)
  | array {elmTy : IrType} {len : Nat} {elems : List Constant} (sized : elems.length = len)
      (homogeneous : ∀ c ∈ elems, c.ty = elmTy) : Fits (.array elmTy len) (.array elems)
  | struct {fieldTys : List IrType} {fields : List Constant} (typed : fields.map Constant.ty = fieldTys) :
      Fits (.struct fieldTys) (.struct fields)

/-- A constant whose value fits its type at every nesting depth. An `undef` stands
for any value of its type, so it is well-formed with every type. -/
inductive WellFormed (context : Context) : Constant → Prop where
  | undef (ty : IrType) : WellFormed context ⟨ty, .undef⟩
  | typed {ty : IrType} {t : TypeContent} {value : ConstantValue} (content : ty.getContent context = some t)
      (fits : Fits t value) (nested : ∀ c ∈ value.elems, WellFormed context c) : WellFormed context ⟨ty, value⟩

/-- A constant with no `undef` at any nesting depth. -/
inductive Defined : Constant → Prop where
  | mk {ty : IrType} {value : ConstantValue} (known : value ≠ .undef) (nested : ∀ c ∈ value.elems, Defined c) :
      Defined ⟨ty, value⟩

variable {context before after : Context}

theorem Fits.ne_undef {t : TypeContent} (fits : Fits t .undef) : False := nomatch fits

/-- Well-formedness survives every later growth of the context. -/
theorem WellFormed.mono (grows : before.Extends after) {c : Constant} (valid : WellFormed before c) :
    WellFormed after c := by
  induction valid with
  | undef ty => exact .undef ty
  | typed content fits _ ih => exact .typed (grows.getContent content) fits ih

/-- The element count the type of an array or struct node records, which `eq` relies on
and `newStruct` does not check; other nodes record none. -/
def Counted (context : Context) (ty : IrType) : ConstantValue → Prop
  | .array elems => ∃ elmTy, ty.getContent context = some (.array elmTy elems.length)
  | .struct fields => ∃ fieldTys : List IrType, ty.getContent context = some (.struct fieldTys) ∧
      fieldTys.length = fields.length
  | _ => True

/-- A constant whose every array and struct node has as many elements as its type records. -/
inductive Sized (context : Context) : Constant → Prop where
  | mk {ty : IrType} {value : ConstantValue} (counted : Counted context ty value)
      (nested : ∀ c ∈ value.elems, Sized context c) : Sized context ⟨ty, value⟩

theorem Counted.mono (grows : before.Extends after) {ty : IrType} {value : ConstantValue}
    (counted : Counted before ty value) : Counted after ty value := by
  cases value with
  | array elems =>
    obtain ⟨elmTy, found⟩ := counted
    exact ⟨elmTy, grows.getContent found⟩
  | struct fields =>
    obtain ⟨fieldTys, found, sized⟩ := counted
    exact ⟨fieldTys, grows.getContent found, sized⟩
  | _ => trivial

theorem Sized.mono (grows : before.Extends after) {c : Constant} (sized : Sized before c) : Sized after c := by
  induction sized with
  | mk counted _ ih => exact .mk (counted.mono grows) ih

/-- The predicate `Fits`, computed, so that well-formedness can be decided. -/
def fitsB : TypeContent → ConstantValue → Bool
  | .unit, .unit => true
  | .bool, .bool _ => true
  | .uint width, .uint _ => width != 256
  | .uint width, .u256 _ => width == 256
  | .b256, .b256 _ => true
  | .string len, .string bytes => bytes.length == len
  | .array elmTy len, .array elems => elems.length == len && elems.all (·.ty == elmTy)
  | .struct fieldTys, .struct fields => fields.map Constant.ty == fieldTys
  | _, _ => false

theorem fitsB_iff {t : TypeContent} {value : ConstantValue} : fitsB t value = true ↔ Fits t value := by
  constructor
  · intro checked
    cases t <;> cases value <;> simp only [fitsB, bne_iff_ne, beq_iff_eq, Bool.and_eq_true, List.all_eq_true,
      reduceCtorEq] at checked
    all_goals first
      | exact .unit
      | exact .bool _
      | exact .b256 _
      | exact .uint _ checked
      | (subst checked; exact .u256 _)
      | exact .string _ checked
      | exact .array checked.1 checked.2
      | exact .struct checked
  · intro fits
    cases fits <;> simp_all [fitsB]

def checkType (context : Context) (ty : IrType) (value : ConstantValue) : Bool :=
  match ty.getContent context with
  | some t => fitsB t value
  | none => false

mutual
def checkWellFormed (context : Context) : Constant → Bool
  | ⟨_, .undef⟩ => true
  | ⟨ty, .array elems⟩ => checkType context ty (.array elems) && checkAll context elems
  | ⟨ty, .struct fields⟩ => checkType context ty (.struct fields) && checkAll context fields
  | ⟨ty, value⟩ => checkType context ty value
def checkAll (context : Context) : List Constant → Bool
  | [] => true
  | c :: cs => checkWellFormed context c && checkAll context cs
end

theorem checkAll_iff {elems : List Constant}
    (ih : ∀ c ∈ elems, checkWellFormed context c = true ↔ WellFormed context c) :
    checkAll context elems = true ↔ ∀ c ∈ elems, WellFormed context c := by
  induction elems with
  | nil => simp [checkAll]
  | cons c cs tail =>
    simp only [checkAll, Bool.and_eq_true, List.forall_mem_cons, ih c (.head _),
      tail (fun d member => ih d (.tail _ member))]

theorem checkType_iff {ty : IrType} {value : ConstantValue} :
    checkType context ty value = true ↔ ∃ t, ty.getContent context = some t ∧ Fits t value := by
  unfold checkType
  split <;> simp_all [fitsB_iff]

theorem wellFormed_mk_iff {ty : IrType} {value : ConstantValue} :
    WellFormed context ⟨ty, value⟩ ↔ value = .undef ∨
      (∃ t, ty.getContent context = some t ∧ Fits t value) ∧ ∀ c ∈ value.elems, WellFormed context c := by
  refine ⟨fun valid => ?_, ?_⟩
  · cases valid with
    | undef => exact .inl rfl
    | typed content fits nested => exact .inr ⟨⟨_, content, fits⟩, nested⟩
  · rintro (rfl | ⟨⟨t, content, fits⟩, nested⟩)
    exacts [.undef ty, .typed content fits nested]

theorem checkWellFormed_iff (c : Constant) : checkWellFormed context c = true ↔ WellFormed context c := by
  induction c using Constant.induction with
  | step ty value ih =>
    rw [wellFormed_mk_iff]
    cases value
    case undef => exact iff_of_true rfl (.inl rfl)
    case array elems =>
      rw [← checkType_iff, ← checkAll_iff ih]
      simp only [reduceCtorEq, false_or, ← Bool.and_eq_true]
      rfl
    case struct fields =>
      rw [← checkType_iff, ← checkAll_iff ih]
      simp only [reduceCtorEq, false_or, ← Bool.and_eq_true]
      rfl
    all_goals
      rw [← checkType_iff]
      simp only [reduceCtorEq, false_or, ConstantValue.elems, List.not_mem_nil, false_implies, implies_true, and_true]
      rfl

instance (context : Context) : DecidablePred (WellFormed context) :=
  fun c => decidable_of_iff _ (checkWellFormed_iff c)

example : WellFormed (Constant.newStruct Context.new [IrType.getBool Context.new, IrType.getUnit Context.new]
    [Constant.newBool Context.new true, Constant.newUnit Context.new]).1
    (Constant.newStruct Context.new [IrType.getBool Context.new, IrType.getUnit Context.new]
      [Constant.newBool Context.new true, Constant.newUnit Context.new]).2 := by decide

/-- A call of one of the constructors of `constant.rs` that return a constant. -/
inductive Construction where
  | newUnit
  | newBool (b : Bool)
  | newUint (nbits : UInt16) (n : UInt64)
  | newUint256 (n : U256)
  | newB256 (bytes : Mathlib.Vector UInt8 32)
  | newString (string : List UInt8)
  | newArray (elmTy : IrType) (elems : List Constant)
  | newStruct (fieldTys : List IrType) (fields : List Constant)
  | getUndef (ty : IrType)

namespace Construction

def run (context : Context) : Construction → Context × Constant
  | newUnit => (context, Constant.newUnit context)
  | newBool b => (context, Constant.newBool context b)
  | newUint nbits n => Constant.newUint context nbits n
  | newUint256 n => Constant.newUint256 context n
  | newB256 bytes => (context, Constant.newB256 context bytes)
  | newString string => Constant.newString context string
  | newArray elmTy elems => Constant.newArray context elmTy elems
  | newStruct fieldTys fields => Constant.newStruct context fieldTys fields
  | getUndef ty => (context, Constant.getUndef ty)

/-- The constants a call takes as arguments. -/
def args : Construction → List Constant
  | newArray _ elems => elems
  | newStruct _ fields => fields
  | _ => []

/-- The agreement between the element arguments and the types a call is given, which
the constructors rely on and do not check. -/
def Typed : Construction → Prop
  | newArray elmTy elems => ∀ c ∈ elems, c.ty = elmTy
  | newStruct fieldTys fields => fields.map Constant.ty = fieldTys
  | _ => True

theorem run_extends (context : Context) (call : Construction) : context.Extends (call.run context).1 := by
  cases call <;> first | rfl | exact IrType.getOrCreateUniqueType_extends _ _

@[simp] theorem run_values (context : Context) (call : Construction) :
    (call.run context).1.values = context.values := by
  cases call <;> first | rfl | exact IrType.getOrCreateUniqueType_values _ _

end Construction

theorem fits_array_iff {elmTy : IrType} {elems : List Constant} :
    Fits (.array elmTy elems.length) (.array elems) ↔ ∀ c ∈ elems, c.ty = elmTy :=
  ⟨fun fits => by cases fits; assumption, .array rfl⟩

theorem fits_struct_iff {fieldTys : List IrType} {fields : List Constant} :
    Fits (.struct fieldTys) (.struct fields) ↔ fields.map Constant.ty = fieldTys :=
  ⟨fun fits => by cases fits; assumption, .struct⟩

theorem fits_newUint (nbits : UInt16) (n : UInt64) :
    Fits (.uint nbits) (if nbits = 256 then .u256 (U256.ofUInt64 n) else .uint n) := by
  split
  next wide => subst wide; exact .u256 _
  next narrow => exact .uint n narrow

/-- Once its elements are well-formed, a defined constant is well-formed exactly when
its payload fits the description of its type. -/
theorem wellFormed_iff_fits {ty : IrType} {t : TypeContent} {value : ConstantValue}
    (content : ty.getContent context = some t) (nested : ∀ c ∈ value.elems, WellFormed context c)
    (known : value ≠ .undef) : WellFormed context ⟨ty, value⟩ ↔ Fits t value := by
  refine ⟨fun valid => ?_, fun fits => .typed content fits nested⟩
  cases valid with
  | undef => exact absurd rfl known
  | typed found fits => rwa [Option.some_injective _ (found.symm.trans content)] at fits

variable {elmTy : IrType} {fieldTys : List IrType} {elems : List Constant}

theorem wellFormed_newUnit (context : Context) : WellFormed context (Constant.newUnit context) :=
  .typed IrType.getContent_getUnit .unit nofun

theorem wellFormed_newBool (context : Context) (b : Bool) : WellFormed context (Constant.newBool context b) :=
  .typed IrType.getContent_getBool (.bool b) nofun

theorem wellFormed_newUint256 (context : Context) (n : U256) :
    WellFormed (Constant.newUint256 context n).1 (Constant.newUint256 context n).2 :=
  .typed (IrType.getContent_getOrCreateUniqueType _ _) (.u256 n) nofun

theorem wellFormed_newB256 (context : Context) (bytes : Mathlib.Vector UInt8 32) :
    WellFormed context (Constant.newB256 context bytes) :=
  .typed IrType.getContent_getB256 (.b256 _) nofun

theorem wellFormed_newString (context : Context) (string : List UInt8) :
    WellFormed (Constant.newString context string).1 (Constant.newString context string).2 :=
  .typed (IrType.getContent_getOrCreateUniqueType _ _) (.string string rfl) nofun

theorem wellFormed_newUint (context : Context) (nbits : UInt16) (n : UInt64) :
    WellFormed (Constant.newUint context nbits n).1 (Constant.newUint context nbits n).2 := by
  refine .typed (IrType.getContent_getOrCreateUniqueType _ _) (fits_newUint nbits n) ?_
  intro c member
  split at member <;> nomatch member

theorem wellFormed_newArray_iff (nested : ∀ c ∈ elems, WellFormed (Constant.newArray context elmTy elems).1 c) :
    WellFormed (Constant.newArray context elmTy elems).1 (Constant.newArray context elmTy elems).2 ↔
      ∀ c ∈ elems, c.ty = elmTy := by
  rw [← fits_array_iff]
  exact wellFormed_iff_fits (IrType.getContent_getOrCreateUniqueType _ _) nested nofun

theorem wellFormed_newStruct_iff (nested : ∀ c ∈ elems, WellFormed (Constant.newStruct context fieldTys elems).1 c) :
    WellFormed (Constant.newStruct context fieldTys elems).1 (Constant.newStruct context fieldTys elems).2 ↔
      elems.map Constant.ty = fieldTys := by
  rw [← fits_struct_iff]
  exact wellFormed_iff_fits (IrType.getContent_getOrCreateUniqueType _ _) nested nofun

namespace Construction

/-- Every constructor keeps well-formedness of its constant arguments, and its result
is well-formed exactly when the element arguments have the types the call is given. -/
theorem wellFormed_run_iff (context : Context) (call : Construction)
    (args : ∀ c ∈ call.args, WellFormed context c) :
    WellFormed (call.run context).1 (call.run context).2 ↔ call.Typed := by
  have grown := fun c member => (args c member).mono (call.run_extends context)
  cases call with
  | newUnit => exact iff_of_true (wellFormed_newUnit context) trivial
  | newBool b => exact iff_of_true (wellFormed_newBool context b) trivial
  | newUint nbits n => exact iff_of_true (wellFormed_newUint context nbits n) trivial
  | newUint256 n => exact iff_of_true (wellFormed_newUint256 context n) trivial
  | newB256 bytes => exact iff_of_true (wellFormed_newB256 context bytes) trivial
  | newString string => exact iff_of_true (wellFormed_newString context string) trivial
  | newArray elmTy elems => exact wellFormed_newArray_iff grown
  | newStruct fieldTys fields => exact wellFormed_newStruct_iff grown
  | getUndef ty => exact iff_of_true (.undef ty) trivial

theorem wellFormed_run_bool_array :
    let call := newArray (IrType.getBool Context.new) [Constant.newBool Context.new true]
    (∀ c ∈ call.args, WellFormed Context.new c) ∧
      (WellFormed (call.run Context.new).1 (call.run Context.new).2 ↔ call.Typed) := by
  dsimp only
  have args : ∀ c ∈ [Constant.newBool Context.new true], WellFormed Context.new c := by
    simpa using wellFormed_newBool Context.new true
  exact ⟨args, wellFormed_run_iff Context.new _ args⟩

/-- What `eq` needs of a call's arguments: `newStruct` is given as many fields as field
types; `newArray` takes its count from its elements and always agrees. -/
def Arity : Construction → Prop
  | newStruct fieldTys fields => fieldTys.length = fields.length
  | _ => True

/-- A call on sized arguments returns a sized constant exactly when its arity agrees,
whatever the types of the elements. -/
theorem sized_run_iff (context : Context) (call : Construction) (args : ∀ c ∈ call.args, Sized context c) :
    Sized (call.run context).1 (call.run context).2 ↔ call.Arity := by
  have grown := fun c member => (args c member).mono (call.run_extends context)
  cases call with
  | newArray elmTy elems =>
    exact iff_of_true (.mk ⟨elmTy, IrType.getContent_getOrCreateUniqueType _ _⟩ grown) trivial
  | newStruct fieldTys fields =>
    have content := IrType.getContent_getOrCreateUniqueType context (.struct fieldTys)
    refine ⟨fun sized => ?_, fun arity => .mk ⟨fieldTys, content, arity⟩ grown⟩
    cases sized with
    | mk counted =>
      obtain ⟨_, found, arity⟩ := counted
      cases Option.some_injective _ (found.symm.trans content)
      exact arity
  | newUint nbits n =>
    refine iff_of_true (.mk ?_ fun c member => ?_) trivial
    · split <;> trivial
    · split at member <;> nomatch member
  | _ => exact iff_of_true (.mk trivial nofun) trivial

end Construction

/-- A call of `newStruct` with one field type and no field returns a struct constant whose
field count differs from its type's, and does not panic. -/
theorem newStruct_field_count_unchecked :
    ¬ WellFormed (Constant.newStruct Context.new [IrType.getUnit Context.new] []).1
      (Constant.newStruct Context.new [IrType.getUnit Context.new] []).2 := by
  intro valid
  nomatch (wellFormed_newStruct_iff (by nofun)).mp valid

end SwayIr.Proofs
