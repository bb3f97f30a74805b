import Sway.Ir.Proofs.WellFormed

/-! Enum extraction on well-formed constants. Besides a two-field struct, a well-formed
constant of an enum type can be `undef`, which `getUndef` builds for every type, and
extraction then takes the fallback its comment calls impossible. -/

namespace SwayIr.Proofs
open Constant

variable {context : Context}

/-- A well-formed constant of an enum type is uninitialised or a two-field struct, and
extraction returns the two fields in the second case and nothing in the first. -/
theorem extractEnumTagAndValue_wellFormed {c : Constant} (valid : WellFormed context c)
    (enum : c.ty.isEnum context = true) :
    (c.value = .undef ∧ c.extractEnumTagAndValue context = none) ∨
      ∃ tag payload, c.value = .struct [tag, payload] ∧
        c.extractEnumTagAndValue context = some (tag, payload) := by
  obtain ⟨tagTy, payloadTy, shape, -⟩ := IrType.isEnum_iff.mp enum
  cases valid with
  | undef ty => exact .inl ⟨rfl, extractEnumTagAndValue_getUndef ty⟩
  | typed content fits _ =>
    cases Option.some_injective _ (content.symm.trans shape)
    cases fits with
    | @struct _ fields typed =>
      obtain _ | ⟨tag, _ | ⟨payload, _ | ⟨_, _⟩⟩⟩ := fields
      all_goals simp only [List.map_cons, List.map_nil, List.cons.injEq, reduceCtorEq, and_false,
        false_and] at typed
      simp only [Constant.ty_mk] at enum
      exact .inr ⟨tag, payload, rfl, by simp [extractEnumTagAndValue, enum]⟩

theorem extractEnumTagAndValue_wellFormed_word :
    let tag := newUint Context.new 64 0
    let payload := newUint tag.1 64 7
    let c := newStruct payload.1 [tag.2.ty, payload.2.ty] [tag.2, payload.2]
    WellFormed c.1 c.2 ∧ c.2.ty.isEnum c.1 = true ∧
      ((c.2.value = .undef ∧ c.2.extractEnumTagAndValue c.1 = none) ∨
        ∃ tag payload, c.2.value = .struct [tag, payload] ∧ c.2.extractEnumTagAndValue c.1 = some (tag, payload)) := by
  dsimp only
  refine ⟨?valid, ?enum, extractEnumTagAndValue_wellFormed ?valid ?enum⟩ <;> decide

/-- The branch that the comment of `extract_enum_tag_and_value` calls impossible is taken:
every enum type has a well-formed constant, the one `get_undef` builds, that is not a
two-element struct, and extraction returns nothing for it. -/
theorem getUndef_enum_reaches_fallback {ty : IrType} (enum : ty.isEnum context = true) :
    WellFormed context (getUndef ty) ∧ (getUndef ty).ty.isEnum context = true ∧
      (∀ tag payload, (getUndef ty).value ≠ .struct [tag, payload]) ∧
      (getUndef ty).extractEnumTagAndValue context = none :=
  ⟨.undef ty, enum, fun _ _ => nofun, extractEnumTagAndValue_getUndef ty⟩

theorem getUndef_enum_reaches_fallback_word :
    let u64 := IrType.newUint Context.new 64
    let enum := IrType.newStruct u64.1 [u64.2, u64.2]
    enum.2.isEnum enum.1 = true ∧ WellFormed enum.1 (getUndef enum.2) ∧
      (getUndef enum.2).ty.isEnum enum.1 = true ∧
      (∀ tag payload, (getUndef enum.2).value ≠ .struct [tag, payload]) ∧
      (getUndef enum.2).extractEnumTagAndValue enum.1 = none := by
  dsimp only
  exact ⟨by decide, getUndef_enum_reaches_fallback (by decide)⟩

/-- The fields extraction returns from a well-formed constant are well-formed, carry the
field types of its type, and the tag has an integer type. -/
theorem extractEnumTagAndValue_fields {c tag payload : Constant} (valid : WellFormed context c)
    (extracted : c.extractEnumTagAndValue context = some (tag, payload)) :
    WellFormed context tag ∧ WellFormed context payload ∧ tag.ty.isUint context = true ∧
      c.ty.getContent context = some (.struct [tag.ty, payload.ty]) := by
  obtain ⟨enum, shape⟩ := extractEnumTagAndValue_eq_some.mp extracted
  obtain ⟨tagTy, payloadTy, content, uint⟩ := IrType.isEnum_iff.mp enum
  cases valid with
  | undef => cases shape
  | typed found fits nested =>
    simp only [Constant.value_mk, Constant.ty_mk] at shape content ⊢
    subst shape
    cases Option.some_injective _ (found.symm.trans content)
    cases fits with
    | struct typed =>
      simp only [List.map_cons, List.map_nil, List.cons.injEq, and_true] at typed
      obtain ⟨rfl, rfl⟩ := typed
      exact ⟨nested _ (.head _), nested _ (.tail _ (.head _)), uint, found⟩

theorem extractEnumTagAndValue_fields_word :
    let tag := newUint Context.new 64 0
    let payload := newUint tag.1 64 7
    let c := newStruct payload.1 [tag.2.ty, payload.2.ty] [tag.2, payload.2]
    WellFormed c.1 c.2 ∧ c.2.extractEnumTagAndValue c.1 = some (tag.2, payload.2) ∧
      (WellFormed c.1 tag.2 ∧ WellFormed c.1 payload.2 ∧ tag.2.ty.isUint c.1 = true ∧
        c.2.ty.getContent c.1 = some (.struct [tag.2.ty, payload.2.ty])) := by
  dsimp only
  exact ⟨by decide, rfl, extractEnumTagAndValue_fields (by decide) rfl⟩

end SwayIr.Proofs
