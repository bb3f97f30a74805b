import Sway.Ir.Proofs.WellFormed

/-! `Constant::eq` against the identity of constant trees. On well-formed constants the
type comparison fixes the variant and the element counts, so the pairwise `zip` sees
every element and the relation is identity without `undef`. Without well-formedness
`zip` stops at the shorter list and the comparison misses whatever lies beyond it. -/

namespace SwayIr.Proofs
open Constant

variable {context : Context}

theorem eqZip_self {elems : List Constant} (reflexive : ∀ c ∈ elems, c.eq context c = true) :
    eqZip context elems elems = true := by
  induction elems with
  | nil => rfl
  | cons c cs ih => simp [reflexive c (.head _), ih (fun d member => reflexive d (.tail _ member))]

/-- Every constant without `undef` equals itself, whatever its shape. -/
theorem eq_self_of_defined {c : Constant} (defined : Defined c) : c.eq context c = true := by
  induction defined with
  | @mk ty value known _ ih =>
    cases value <;> simp only [eq_mk, IrType.eq_self, Bool.true_and, eqValue_array, eqValue_struct]
    all_goals first | exact absurd rfl known | exact eqZip_self ih | simp

theorem eqZip_sound {valid : Constant → Prop} {l r : List Constant} (sized : l.length = r.length)
    (ih : ∀ c ∈ l, ∀ {d}, valid d → c.eq context d = true → c = d ∧ Defined c)
    (validAll : ∀ d ∈ r, valid d) (equal : eqZip context l r = true) :
    l = r ∧ ∀ c ∈ l, Defined c := by
  induction l generalizing r with
  | nil => exact ⟨(List.length_eq_zero.mp sized.symm).symm, nofun⟩
  | cons c cs tail =>
    cases r with
    | nil => cases sized
    | cons d ds =>
      simp only [eqZip_cons, Bool.and_eq_true] at equal
      obtain ⟨rfl, head⟩ := ih c (.head _) (validAll d (.head _)) equal.1
      obtain ⟨rfl, rest⟩ := tail (Nat.succ.inj sized) (fun c member => ih c (.tail _ member))
        (fun d member => validAll d (.tail _ member)) equal.2
      exact ⟨rfl, List.forall_mem_cons.mpr ⟨head, rest⟩⟩

/-- Two payloads that fit one type description have the same variant and, for
aggregates, the same length; so `eqValue` compares all of them. -/
theorem Fits.eq_of_eqValue {t : TypeContent} {value other : ConstantValue} (fits : Fits t value)
    (fitsOther : Fits t other)
    (ih : ∀ c ∈ value.elems, ∀ {d}, WellFormed context d → c.eq context d = true → c = d ∧ Defined c)
    (valid : ∀ d ∈ other.elems, WellFormed context d) (equal : eqValue context value other = true) :
    value = other ∧ ∀ c ∈ value.elems, Defined c := by
  cases fits with
  | uint _ narrow => cases fitsOther <;> simp_all
  | u256 => cases fitsOther <;> simp_all
  | array sized _ =>
    cases fitsOther with
    | array sized' _ =>
      obtain ⟨rfl, defined⟩ := eqZip_sound (sized.trans sized'.symm) ih valid equal
      exact ⟨rfl, defined⟩
  | struct typed =>
    cases fitsOther with
    | struct typed' =>
      have sized := by simpa using congrArg List.length (typed.trans typed'.symm)
      obtain ⟨rfl, defined⟩ := eqZip_sound sized ih valid equal
      exact ⟨rfl, defined⟩
  | _ => cases fitsOther; simp_all

theorem eq_sound {a b : Constant} (valid : WellFormed context a) (validOther : WellFormed context b)
    (equal : a.eq context b = true) : a = b ∧ Defined a := by
  induction valid generalizing b with
  | undef ty => cases b; simp at equal
  | typed content fits _ ih =>
    cases validOther with
    | undef => simp at equal
    | typed content' fits' nested' =>
      simp only [eq_mk, Bool.and_eq_true, IrType.eq_iff] at equal
      obtain ⟨rfl, equal⟩ := equal
      cases Option.some_injective _ (content.symm.trans content')
      obtain ⟨rfl, defined⟩ := fits.eq_of_eqValue fits' ih nested' equal
      exact ⟨rfl, .mk (by rintro rfl; exact fits.ne_undef) defined⟩

/-- On well-formed constants, `eq` holds exactly between identical trees that hold no
`undef` at any depth. -/
theorem eq_iff_identical {a b : Constant} (valid : WellFormed context a)
    (validOther : WellFormed context b) : a.eq context b = true ↔ a = b ∧ Defined a :=
  ⟨eq_sound valid validOther, fun ⟨same, defined⟩ => same ▸ eq_self_of_defined defined⟩

theorem eq_iff_identical_nested :
    let one := newUint Context.new 64 1
    let pair := newArray one.1 one.2.ty [one.2, one.2]
    let outer := newStruct pair.1 [pair.2.ty, one.2.ty] [pair.2, one.2]
    WellFormed outer.1 outer.2 ∧ (outer.2.eq outer.1 outer.2 = true ↔ outer.2 = outer.2 ∧ Defined outer.2) := by
  dsimp only
  refine ⟨?valid, eq_iff_identical ?valid ?valid⟩
  decide

theorem Counted.eq_of_eqValue {ty : IrType} {value other : ConstantValue} (counted : Counted context ty value)
    (countedOther : Counted context ty other)
    (ih : ∀ c ∈ value.elems, ∀ {d}, Sized context d → c.eq context d = true → c = d ∧ Defined c)
    (sized : ∀ d ∈ other.elems, Sized context d) (equal : eqValue context value other = true) :
    value = other ∧ ∀ c ∈ value.elems, Defined c := by
  cases value <;> cases other <;> first | exact absurd equal Bool.false_ne_true | skip
  case array.array l r =>
    obtain ⟨_, found⟩ := counted
    obtain ⟨_, found'⟩ := countedOther
    have same := (TypeContent.array.inj (Option.some_injective _ (found.symm.trans found'))).2
    obtain ⟨rfl, defined⟩ := eqZip_sound same ih sized equal
    exact ⟨rfl, defined⟩
  case struct.struct l r =>
    obtain ⟨_, found, sizedFields⟩ := counted
    obtain ⟨_, found', sizedFields'⟩ := countedOther
    cases Option.some_injective _ (found.symm.trans found')
    obtain ⟨rfl, defined⟩ := eqZip_sound (sizedFields.symm.trans sizedFields') ih sized equal
    exact ⟨rfl, defined⟩
  all_goals exact ⟨by first | rfl | simpa using equal, nofun⟩

theorem eq_sized_sound {a b : Constant} (sized : Sized context a) (sizedOther : Sized context b)
    (equal : a.eq context b = true) : a = b ∧ Defined a := by
  induction sized generalizing b with
  | mk counted _ ih =>
    cases sizedOther with
    | mk counted' nested' =>
      simp only [eq_mk, Bool.and_eq_true, IrType.eq_iff] at equal
      obtain ⟨rfl, equal⟩ := equal
      obtain ⟨rfl, defined⟩ := counted.eq_of_eqValue counted' ih nested' equal
      exact ⟨rfl, .mk (by rintro rfl; simp at equal) defined⟩

/-- When every array and struct node has the element count its type records, a comparison
that holds relates identical trees with no `undef` on either side, so `eq` is transitive on
such constants; the element types may disagree with the types recorded. -/
theorem eq_sized_defined {a b : Constant} (sized : Sized context a) (sizedOther : Sized context b)
    (equal : a.eq context b = true) :
    a = b ∧ Defined a ∧ Defined b ∧ ∀ c, b.eq context c = true → a.eq context c = true := by
  obtain ⟨rfl, defined⟩ := eq_sized_sound sized sizedOther equal
  exact ⟨rfl, defined, defined, fun _ => id⟩

theorem eq_sized_defined_bool_array :
    let a := newArray Context.new (IrType.getBool Context.new) [newUnit Context.new]
    let b := newArray a.1 (IrType.getBool Context.new) [newUnit Context.new]
    ¬ WellFormed b.1 a.2 ∧ Sized b.1 a.2 ∧ Sized b.1 b.2 ∧ a.2.eq b.1 b.2 = true ∧
      (a.2 = b.2 ∧ Defined a.2 ∧ Defined b.2 ∧ ∀ c, b.2.eq b.1 c = true → a.2.eq b.1 c = true) := by
  dsimp only
  have unit (context : Context) : ∀ c ∈ [newUnit Context.new], Sized context c := by
    simpa using .mk trivial nofun
  refine ⟨by decide, ?first, ?second, ?equal, eq_sized_defined ?first ?second ?equal⟩
  case first =>
    exact ((Construction.sized_run_iff _ (.newArray _ _) (unit _)).mpr trivial).mono
      (Construction.run_extends _ (.newArray _ _))
  case second => exact (Construction.sized_run_iff _ (.newArray _ _) (unit _)).mpr trivial
  case equal => decide

/-- Two struct constants of one type, built only by the constructors, compare equal
although the first has an extra `undef` field: `zip` never reaches it. -/
theorem newStruct_eq_with_extra_undef_field :
    let one := newUint Context.new 64 1
    let a := newStruct one.1 [one.2.ty] [one.2, getUndef one.2.ty]
    let b := newStruct a.1 [one.2.ty] [one.2]
    a.2.eq b.1 b.2 = true ∧ ¬ Defined a.2 ∧ a.2.value.elems.length ≠ b.2.value.elems.length := by
  refine ⟨by decide, ?_, by decide⟩
  rintro ⟨_, nested⟩
  cases nested _ (.tail _ (.head _)) with
  | mk known => exact known rfl

theorem eqZip_symm {l r : List Constant} (ih : ∀ c ∈ l, ∀ d, c.eq context d = d.eq context c) :
    eqZip context l r = eqZip context r l := by
  induction l generalizing r with
  | nil => cases r <;> rfl
  | cons c cs tail =>
    cases r with
    | nil => rfl
    | cons d ds => simp only [eqZip_cons, ih c (.head _) d, tail (fun c member => ih c (.tail _ member))]

/-- Equality is symmetric on all constants, well-formed or not: the `undef` arms and the
`zip` treat both sides alike. -/
theorem eq_symmetric (a b : Constant) : a.eq context b = b.eq context a := by
  induction a using Constant.induction generalizing b with
  | step ty value ih =>
    obtain ⟨otherTy, otherValue⟩ := b
    rw [eq_mk, eq_mk, IrType.eq, IrType.eq, Bool.beq_comm]
    congr 1
    cases value <;> cases otherValue <;> first | rfl | exact Bool.beq_comm | exact eqZip_symm ih

theorem eq_iff_of_content {ty other : IrType} {t u : TypeContent} {value otherValue : ConstantValue}
    (found : ty.getContent context = some t) (same : other.getContent context = some u) :
    (Constant.mk ty value).eq context ⟨other, otherValue⟩ = true ↔
      t = u ∧ eqValue context value otherValue = true := by
  rw [eq_mk, Bool.and_eq_true, IrType.eq_iff_content found same]

/-- The widening path of `newUint` and the direct path of `newUint256` agree exactly
on width 256 and on equal numbers. -/
theorem newUint_eq_newUint256_iff (context : Context) (w : UInt16) (n : UInt64) (m : U256) :
    let a := newUint context w n
    let b := newUint256 a.1 m
    a.2.eq b.1 b.2 = true ↔ w = 256 ∧ m = U256.ofUInt64 n := by
  intro a b
  have wide : (IrType.newUint context w).2.getContent b.1 = some (.uint w) :=
    (IrType.getOrCreateUniqueType_extends _ _).getContent (IrType.getContent_getOrCreateUniqueType _ _)
  have full : (IrType.newUint a.1 256).2.getContent b.1 = some (.uint 256) :=
    IrType.getContent_getOrCreateUniqueType _ _
  refine (eq_iff_of_content wide full).trans ?_
  rw [TypeContent.uint.injEq]
  by_cases width : w = 256
  · subst width
    simp only [if_pos, eqValue_u256, beq_iff_eq, true_and]
    exact eq_comm
  · simp only [width, false_and]

/-- Two constants built by `newUint` compare equal exactly when they have the same
width and the same number, on the widening path as on the other. -/
theorem newUint_eq_newUint_iff (context : Context) (w w' : UInt16) (n n' : UInt64) :
    let a := newUint context w n
    let b := newUint a.1 w' n'
    a.2.eq b.1 b.2 = true ↔ w = w' ∧ n = n' := by
  intro a b
  have first : (IrType.newUint context w).2.getContent b.1 = some (.uint w) :=
    (IrType.getOrCreateUniqueType_extends _ _).getContent (IrType.getContent_getOrCreateUniqueType _ _)
  have second : (IrType.newUint a.1 w').2.getContent b.1 = some (.uint w') :=
    IrType.getContent_getOrCreateUniqueType _ _
  refine (eq_iff_of_content first second).trans ?_
  rw [TypeContent.uint.injEq]
  by_cases same : w = w'
  · subst same
    by_cases wide : w = 256
    · simp only [wide, if_pos, eqValue_u256, beq_iff_eq, true_and, U256.ofUInt64_inj]
    · simp only [wide, if_neg, eqValue_uint, beq_iff_eq, true_and, not_false_eq_true]
  · simp only [same, false_and]

end SwayIr.Proofs
