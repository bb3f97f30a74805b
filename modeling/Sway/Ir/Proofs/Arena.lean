import Sway.Ir.Proofs.Equality

/-! Runs of the constant API over one context. Every operation only appends to the
arenas, so along a run every handle keeps what it denotes. Types are interned and
values are not. The `get` family allocates well-formed constants, except that the
assertion of `getArray` and `getStruct` checks only the kind of the given type. -/

namespace SwayIr.Proofs
open Constant

/-- A call of the `get` family of `constant.rs`. -/
inductive Allocation where
  | getUnit
  | getBool (value : Bool)
  | getUint (nbits : UInt16) (value : UInt64)
  | getUint256 (value : U256)
  | getB256 (value : Mathlib.Vector UInt8 32)
  | getString (value : List UInt8)
  | getArray (value : Constant)
  | getStruct (value : Constant)

namespace Allocation

def run (context : Context) : Allocation → Option (Context × Value)
  | getUnit => some (Constant.getUnit context)
  | getBool value => some (Constant.getBool context value)
  | getUint nbits value => some (Constant.getUint context nbits value)
  | getUint256 value => some (Constant.getUint256 context value)
  | getB256 value => some (Constant.getB256 context value)
  | getString value => some (Constant.getString context value)
  | getArray value => Constant.getArray context value
  | getStruct value => Constant.getStruct context value

/-- The constant an allocation places in the value arena, with the context it is
built in: a constructor call, or the constant the allocation is given. -/
def build (context : Context) : Allocation → Context × Constant
  | getUnit => Construction.newUnit.run context
  | getBool value => (Construction.newBool value).run context
  | getUint nbits value => (Construction.newUint nbits value).run context
  | getUint256 value => (Construction.newUint256 value).run context
  | getB256 value => (Construction.newB256 value).run context
  | getString value => (Construction.newString value).run context
  | getArray value | getStruct value => (context, value)

/-- The assertion an allocation makes before it allocates. -/
def admits (context : Context) : Allocation → Bool
  | getArray value => value.ty.isArray context
  | getStruct value => value.ty.isStruct context
  | _ => true

/-- The constants an allocation is handed ready-made. -/
def given : Allocation → List Constant
  | getArray value | getStruct value => [value]
  | _ => []

/-- Every allocation builds its constant, checks its assertion, and appends the
constant to the value arena. -/
theorem run_eq (context : Context) (allocation : Allocation) :
    allocation.run context =
      if allocation.admits context then
        some (Value.newConstant (allocation.build context).1 (allocation.build context).2)
      else none := by
  cases allocation <;> rfl

theorem build_extends (context : Context) (allocation : Allocation) :
    context.Extends (allocation.build context).1 := by
  cases allocation <;> first | rfl | exact Construction.run_extends _ _

@[simp] theorem build_values (context : Context) (allocation : Allocation) :
    (allocation.build context).1.values = context.values := by
  cases allocation <;> first | rfl | exact Construction.run_values _ _

end Allocation

/-- One operation on a context: a type request of `irtype.rs`, a constructor call, or
an allocation. A `none` result is a failed assertion. -/
inductive Operation where
  | request (t : TypeContent)
  | construct (call : Construction)
  | allocate (allocation : Allocation)

def Operation.run (context : Context) : Operation → Option Context
  | request t => some (IrType.getOrCreateUniqueType context t).1
  | construct call => some (call.run context).1
  | allocate allocation => (allocation.run context).map Prod.fst

/-- The contexts a run passes through, each operation permitted by `allowed` in the
context it runs in. -/
inductive Run (allowed : Context → Operation → Prop) : Context → Context → Prop where
  | refl (context : Context) : Run allowed context context
  | step {context middle after : Context} (operation : Operation) (permitted : allowed context operation)
      (ran : operation.run context = some middle) (rest : Run allowed middle after) : Run allowed context after

variable {allowed : Context → Operation → Prop} {context before after : Context}

theorem Allocation.run_inv {allocation : Allocation} {value : Value}
    (ran : allocation.run context = some (after, value)) : allocation.admits context = true ∧
      (after, value) = Value.newConstant (allocation.build context).1 (allocation.build context).2 := by
  rw [Allocation.run_eq] at ran
  split at ran
  next admitted => exact ⟨admitted, (Option.some.inj ran).symm⟩
  next => cases ran

theorem Allocation.run_extends {allocation : Allocation} {value : Value}
    (ran : allocation.run context = some (after, value)) : context.Extends after := by
  obtain ⟨-, same⟩ := Allocation.run_inv ran
  cases same
  exact (allocation.build_extends context).trans (Value.newConstant_extends _ _)

theorem Operation.run_extends {operation : Operation} (ran : operation.run context = some after) :
    context.Extends after := by
  cases operation with
  | request t => cases ran; exact IrType.getOrCreateUniqueType_extends _ _
  | construct call => cases ran; exact Construction.run_extends _ _
  | allocate allocation =>
    obtain ⟨⟨_, value⟩, allocated, rfl⟩ := Option.map_eq_some'.mp ran
    exact Allocation.run_extends allocated

theorem Run.extends (run : Run allowed before after) : before.Extends after := by
  induction run with
  | refl => rfl
  | step _ _ ran _ ih => exact (Operation.run_extends ran).trans ih

/-- Along every run, every type handle keeps its description, every value handle
keeps its constant, and the basic types keep their handles. -/
theorem Run.frame (run : Run allowed before after) :
    (∀ (ty : IrType) (t : TypeContent), ty.getContent before = some t → ty.getContent after = some t) ∧
      (∀ (value : Value) (c : Constant), value.getConstant before = some c → value.getConstant after = some c) ∧
      IrType.getUnit after = IrType.getUnit before ∧ IrType.getBool after = IrType.getBool before ∧
      IrType.getB256 after = IrType.getB256 before := by
  have grows := run.extends
  obtain ⟨unit, bool, b256⟩ := before.basic_mem
  exact ⟨fun _ _ => grows.getContent, fun _ _ => grows.getConstant, grows.lookup unit, grows.lookup bool,
    grows.lookup b256⟩

/-- The context after a new context allocates the unit value and then a 64-bit number. -/
def unitAndWord : Context := (Constant.getUint (Constant.getUnit Context.new).1 64 7).1

theorem Run.frame_new :
    Run (fun _ _ => True) Context.new unitAndWord ∧
      (∀ (ty : IrType) (t : TypeContent), ty.getContent Context.new = some t → ty.getContent unitAndWord = some t) ∧
      (∀ (value : Value) (c : Constant), value.getConstant Context.new = some c →
        value.getConstant unitAndWord = some c) ∧
      IrType.getUnit unitAndWord = IrType.getUnit Context.new ∧
      IrType.getBool unitAndWord = IrType.getBool Context.new ∧
      IrType.getB256 unitAndWord = IrType.getB256 Context.new :=
  have run : Run (fun _ _ => True) Context.new unitAndWord :=
    .step (.allocate .getUnit) trivial rfl (.step (.allocate (.getUint 64 7)) trivial rfl (.refl _))
  ⟨run, Run.frame run⟩

/-- Types are interned over runs: after a request for `t`, a request for `u` in any
later context returns the same handle exactly when `u = t`. -/
theorem getOrCreateUniqueType_canonical (context : Context) (t u : TypeContent) {later : Context}
    (run : Run allowed (IrType.getOrCreateUniqueType context t).1 later) :
    (IrType.getOrCreateUniqueType later u).2 = (IrType.getOrCreateUniqueType context t).2 ↔ u = t := by
  have first := (run.extends.trans (IrType.getOrCreateUniqueType_extends later u)).getContent
    (IrType.getContent_getOrCreateUniqueType context t)
  exact IrType.eq_iff.symm.trans (IrType.eq_iff_content (IrType.getContent_getOrCreateUniqueType later u) first)

theorem getOrCreateUniqueType_canonical_uint :
    let word := IrType.getOrCreateUniqueType Context.new (.uint 64)
    let later := (IrType.getOrCreateUniqueType word.1 (.uint 8)).1
    Run (fun _ _ => True) word.1 later ∧
      ((IrType.getOrCreateUniqueType later (.uint 64)).2 = word.2 ↔ TypeContent.uint 64 = .uint 64) := by
  dsimp only
  have run : Run (fun _ _ => True) (IrType.getOrCreateUniqueType Context.new (.uint 64)).1
      (IrType.getOrCreateUniqueType (IrType.getOrCreateUniqueType Context.new (.uint 64)).1 (.uint 8)).1 :=
    .step (.request (.uint 8)) trivial rfl (.refl _)
  exact ⟨run, getOrCreateUniqueType_canonical Context.new _ _ run⟩

/-- Values are not interned: an allocation in any later context gets a new handle,
even for the same constant, and both handles keep their constant. A defined
constant still compares equal to itself. -/
theorem newConstant_not_interned (context : Context) (c : Constant) {later : Context}
    (run : Run allowed (Value.newConstant context c).1 later) :
    (Value.newConstant later c).2 ≠ (Value.newConstant context c).2 ∧
      (Value.newConstant context c).2.getConstant (Value.newConstant later c).1 = some c ∧
      (Value.newConstant later c).2.getConstant (Value.newConstant later c).1 = some c ∧
      (Defined c → c.eq (Value.newConstant later c).1 c = true) := by
  have kept := run.extends.getConstant (Value.getConstant_newConstant context c)
  exact ⟨(Value.newConstant_fresh kept).symm, (Value.newConstant_extends later c).getConstant kept,
    Value.getConstant_newConstant later c, eq_self_of_defined⟩

theorem newConstant_not_interned_unit :
    let first := Value.newConstant Context.new (newUnit Context.new)
    let later := (Constant.getBool first.1 true).1
    Run (fun _ _ => True) first.1 later ∧
      ((Value.newConstant later (newUnit Context.new)).2 ≠ first.2 ∧
        first.2.getConstant (Value.newConstant later (newUnit Context.new)).1 = some (newUnit Context.new) ∧
        (Value.newConstant later (newUnit Context.new)).2.getConstant
            (Value.newConstant later (newUnit Context.new)).1 = some (newUnit Context.new) ∧
        (Defined (newUnit Context.new) →
          (newUnit Context.new).eq (Value.newConstant later (newUnit Context.new)).1 (newUnit Context.new) = true)) := by
  dsimp only
  have run : Run (fun _ _ => True) (Value.newConstant Context.new (newUnit Context.new)).1
      (Constant.getBool (Value.newConstant Context.new (newUnit Context.new)).1 true).1 :=
    .step (.allocate (.getBool true)) trivial rfl (.refl _)
  exact ⟨run, newConstant_not_interned _ _ run⟩

/-- Every constant the value arena holds is well-formed. -/
def ArenaWellFormed (context : Context) : Prop :=
  ∀ (value : Value) (c : Constant), value.getConstant context = some c → WellFormed context c

/-- The permission of a sound run: a constant handed to `getArray` or `getStruct` is
well-formed, which their assertion, on the kind of its type only, does not check. -/
def Sound (context : Context) : Operation → Prop
  | .allocate allocation => ∀ c ∈ allocation.given, WellFormed context c
  | _ => True

theorem arenaWellFormed_new : ArenaWellFormed Context.new := by
  intro value c found
  simp [Value.getConstant, Context.new] at found

theorem ArenaWellFormed.grow (valid : ArenaWellFormed before) (grows : before.Extends after)
    (same : after.values = before.values) : ArenaWellFormed after := by
  intro value c found
  rw [Value.getConstant, same] at found
  exact (valid value c found).mono grows

theorem ArenaWellFormed.newConstant (valid : ArenaWellFormed context) {c : Constant}
    (fresh : WellFormed context c) : ArenaWellFormed (Value.newConstant context c).1 := by
  intro value held found
  have grows := Value.newConstant_extends context c
  simp only [Value.getConstant, Value.newConstant] at found
  by_cases inside : value.index < context.values.length
  · rw [List.getElem?_append_left inside] at found
    exact (valid value held found).mono grows
  · rw [List.getElem?_append_right (Nat.le_of_not_lt inside)] at found
    obtain ⟨_, rfl⟩ := List.getElem?_eq_some_iff.mp found
    rw [List.getElem_singleton]
    exact fresh.mono grows

theorem Allocation.wellFormed_build (context : Context) (allocation : Allocation)
    (given : ∀ c ∈ allocation.given, WellFormed context c) :
    WellFormed (allocation.build context).1 (allocation.build context).2 := by
  cases allocation with
  | getUnit => exact wellFormed_newUnit context
  | getBool value => exact wellFormed_newBool context value
  | getUint nbits value => exact wellFormed_newUint context nbits value
  | getUint256 value => exact wellFormed_newUint256 context value
  | getB256 value => exact wellFormed_newB256 context value
  | getString value => exact wellFormed_newString context value
  | getArray value | getStruct value => exact given value (.head _)

theorem Operation.arenaWellFormed_run {operation : Operation} (valid : ArenaWellFormed context)
    (sound : Sound context operation) (ran : operation.run context = some after) : ArenaWellFormed after := by
  cases operation with
  | request t =>
    cases ran
    exact valid.grow (IrType.getOrCreateUniqueType_extends _ _) (IrType.getOrCreateUniqueType_values _ _)
  | construct call =>
    cases ran
    exact valid.grow (Construction.run_extends _ _) (Construction.run_values _ _)
  | allocate allocation =>
    obtain ⟨⟨_, value⟩, allocated, rfl⟩ := Option.map_eq_some'.mp ran
    obtain ⟨-, same⟩ := Allocation.run_inv allocated
    cases same
    exact (valid.grow (allocation.build_extends context) (allocation.build_values context)).newConstant
      (allocation.wellFormed_build context sound)

/-- Each step of a sound run keeps the value arena well-formed. -/
theorem Run.arenaWellFormed (run : Run Sound before after) (valid : ArenaWellFormed before) :
    ArenaWellFormed after := by
  induction run with
  | refl => exact valid
  | step _ sound ran _ ih => exact ih (Operation.arenaWellFormed_run valid sound ran)

/-- Along every run from a new context in which each constant handed to `getArray`
or `getStruct` is well-formed, the value arena holds only well-formed constants. -/
theorem arenaWellFormed_of_run (run : Run Sound Context.new after) : ArenaWellFormed after :=
  run.arenaWellFormed arenaWellFormed_new

/-- An array of one unit constant, built in a new context. -/
def unitArray : Context × Constant := newArray Context.new (IrType.getUnit Context.new) [newUnit Context.new]

theorem arenaWellFormed_of_run_new :
    Run Sound Context.new (Value.newConstant unitArray.1 unitArray.2).1 ∧
      ArenaWellFormed (Value.newConstant unitArray.1 unitArray.2).1 := by
  have sound : Sound unitArray.1 (.allocate (.getArray unitArray.2)) := by
    simp only [Sound, Allocation.given, List.mem_singleton, forall_eq]
    decide
  have run : Run Sound Context.new (Value.newConstant unitArray.1 unitArray.2).1 :=
    .step (.construct (.newArray (IrType.getUnit Context.new) [newUnit Context.new])) trivial rfl
      (.step (.allocate (.getArray unitArray.2)) sound rfl (.refl _))
  exact ⟨run, arenaWellFormed_of_run run⟩

end SwayIr.Proofs
