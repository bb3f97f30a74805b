import Sway.Ir.Data
import Mathlib.Data.List.Nodup
import Mathlib.Data.List.Infix

/-! The context of one compilation unit: the type arena, which interns structural
descriptions, and the value arena, which does not. Every operation only appends to
the arenas, so a handle keeps what it denotes for the rest of the context's life. -/

namespace SwayIr

/-- The types a context holds from its creation. `constant.rs` reads them through a
shared borrow of the context, so they cannot be allocated on first use. -/
def TypeContent.basic : List TypeContent := [.unit, .bool, .b256]

/-- Modelled from the spec: `context.rs` is not in the sources. The type arena never
holds a description twice, which is what makes a handle comparison a type comparison. -/
structure Context where
  types : List TypeContent
  values : List Constant
  interned : types.Nodup
  basic : ∀ t ∈ TypeContent.basic, t ∈ types

namespace Context

def new : Context where
  types := TypeContent.basic
  values := []
  interned := by decide
  basic := fun _ member => member

/-- The growth relation: the arenas of `after` start with those of `before`. -/
structure Extends (before after : Context) : Prop where
  types : before.types <+: after.types
  values : before.values <+: after.values

@[refl] theorem Extends.refl (context : Context) : context.Extends context :=
  ⟨List.prefix_refl _, List.prefix_refl _⟩

@[trans] theorem Extends.trans {first second third : Context} (early : first.Extends second)
    (late : second.Extends third) : first.Extends third :=
  ⟨early.types.trans late.types, early.values.trans late.values⟩

/-- The handle of a description the arena holds: its position in the arena. -/
def lookup (context : Context) (t : TypeContent) : IrType := ⟨context.types.indexOf t⟩

/-- Append a description the arena does not hold yet. -/
def push (context : Context) (t : TypeContent) (fresh : t ∉ context.types) : Context where
  types := context.types ++ [t]
  values := context.values
  interned := by simpa [List.nodup_append, fresh] using context.interned
  basic := fun u member => List.mem_append_left _ (context.basic u member)

end Context

/-- Modelled from the spec: `Type::get_content`, the description behind a handle. -/
def IrType.getContent (ty : IrType) (context : Context) : Option TypeContent :=
  context.types[ty.index]?

/-- Modelled from the spec: `Type::get_or_create_unique_type` returns the handle of a
description, allocating it only when the arena does not hold it yet. -/
def IrType.getOrCreateUniqueType (context : Context) (t : TypeContent) : Context × IrType :=
  if present : t ∈ context.types then (context, context.lookup t)
  else (context.push t present, ⟨context.types.length⟩)

/-- Modelled from the spec: `Value::new_constant` gives every constant a fresh slot,
even when an equal constant is already allocated. -/
def Value.newConstant (context : Context) (constant : Constant) : Context × Value :=
  ({ context with values := context.values ++ [constant] }, ⟨context.values.length⟩)

/-- Modelled from the spec: the constant a value handle wraps, if it wraps one. -/
def Value.getConstant (value : Value) (context : Context) : Option Constant :=
  context.values[value.index]?

private theorem getElem?_of_prefix {α : Type} {short long : List α} (grows : short <+: long)
    {index : Nat} {item : α} (found : short[index]? = some item) : long[index]? = some item := by
  obtain ⟨rest, rfl⟩ := grows
  rw [List.getElem?_append_left (List.getElem?_eq_some_iff.mp found).1, found]

namespace Context

variable {context before after : Context} {t : TypeContent}

theorem getContent_lookup (present : t ∈ context.types) :
    (context.lookup t).getContent context = some t := by
  simp only [lookup, IrType.getContent]
  exact List.getElem?_eq_some_iff.mpr ⟨List.indexOf_lt_length.mpr present, List.getElem_indexOf _⟩

/-- Interning: at most one handle denotes a given description. -/
theorem getContent_inj {ty other : IrType} (found : ty.getContent context = some t)
    (same : other.getContent context = some t) : ty = other := by
  obtain ⟨inside, rfl⟩ := List.getElem?_eq_some_iff.mp found
  obtain ⟨bound, equal⟩ := List.getElem?_eq_some_iff.mp same
  cases ty; cases other
  simpa using ((context.interned.getElem_inj_iff).mp equal).symm

theorem Extends.getContent (grows : before.Extends after) {ty : IrType}
    (found : ty.getContent before = some t) : ty.getContent after = some t :=
  getElem?_of_prefix grows.types found

theorem Extends.getConstant (grows : before.Extends after) {value : Value} {constant : Constant}
    (found : value.getConstant before = some constant) : value.getConstant after = some constant :=
  getElem?_of_prefix grows.values found

theorem Extends.mem (grows : before.Extends after) (present : t ∈ before.types) : t ∈ after.types :=
  grows.types.subset present

/-- The handle of an interned description is the same in every later context. -/
theorem Extends.lookup (grows : before.Extends after) (present : t ∈ before.types) :
    after.lookup t = before.lookup t :=
  getContent_inj (getContent_lookup (grows.mem present)) (grows.getContent (getContent_lookup present))

theorem basic_mem (context : Context) : TypeContent.unit ∈ context.types ∧
    TypeContent.bool ∈ context.types ∧ TypeContent.b256 ∈ context.types :=
  ⟨context.basic _ (by decide), context.basic _ (by decide), context.basic _ (by decide)⟩

end Context

namespace IrType

theorem getOrCreateUniqueType_extends (context : Context) (t : TypeContent) :
    context.Extends (getOrCreateUniqueType context t).1 := by
  unfold getOrCreateUniqueType
  split
  · rfl
  · exact ⟨List.prefix_append _ _, List.prefix_refl _⟩

@[simp] theorem getOrCreateUniqueType_values (context : Context) (t : TypeContent) :
    (getOrCreateUniqueType context t).1.values = context.values := by
  unfold getOrCreateUniqueType
  split <;> rfl

/-- The returned handle denotes the requested description in the returned context. -/
theorem getContent_getOrCreateUniqueType (context : Context) (t : TypeContent) :
    (getOrCreateUniqueType context t).2.getContent (getOrCreateUniqueType context t).1 = some t := by
  unfold getOrCreateUniqueType
  split
  next present => exact Context.getContent_lookup present
  next => exact List.getElem?_concat_length _ _

end IrType

namespace Value

variable {context : Context} {constant : Constant}

theorem newConstant_extends (context : Context) (constant : Constant) :
    context.Extends (newConstant context constant).1 :=
  ⟨List.prefix_refl _, List.prefix_append _ _⟩

@[simp] theorem getConstant_newConstant (context : Context) (constant : Constant) :
    (newConstant context constant).2.getConstant (newConstant context constant).1 = some constant :=
  List.getElem?_concat_length _ _

/-- The new handle differs from every handle that already wraps a constant. -/
theorem newConstant_fresh {value : Value} {held : Constant} (found : value.getConstant context = some held) :
    value ≠ (newConstant context constant).2 := by
  rintro rfl
  simp [getConstant, newConstant] at found

end Value

end SwayIr
