import Sway.Ir.Proofs.Equality
import Mathlib.Data.List.Basic
import Mathlib.Algebra.Group.Nat.Basic

/-! Byte order of `B256` constants. `newB256` reads its 32 bytes as one big-endian
number; reading the digest back gives the same bytes in the same order, so two
digest constants compare equal exactly when they were built from the same bytes. -/

namespace SwayIr.Proofs
open Constant

theorem bigEndian_append (bytes : List UInt8) (byte : UInt8) :
    bigEndian (bytes ++ [byte]) = bigEndian bytes * 256 + byte.toNat := by
  simp [bigEndian, List.foldl_append]

theorem bigEndian_lt (bytes : List UInt8) : bigEndian bytes < 256 ^ bytes.length := by
  induction bytes using List.reverseRecOn with
  | nil => decide
  | append_singleton bytes byte ih =>
    rw [bigEndian_append, List.length_append, List.length_singleton, Nat.pow_succ]
    have small : byte.toNat < 256 := byte.toNat_lt_size
    omega

theorem beBytes_bigEndian (bytes : List UInt8) : beBytes bytes.length (bigEndian bytes) = bytes := by
  induction bytes using List.reverseRecOn with
  | nil => rfl
  | append_singleton bytes byte ih =>
    have small : byte.toNat < 256 := byte.toNat_lt_size
    have high : (bigEndian bytes * 256 + byte.toNat) / 256 = bigEndian bytes := by omega
    have low : (bigEndian bytes * 256 + byte.toNat) % 256 = byte.toNat := by omega
    rw [List.length_append, List.length_singleton, beBytes, bigEndian_append, high, low, ih,
      UInt8.toNat.inj (UInt8.toNat_ofNat_of_lt byte.toNat_lt_size)]

theorem bigEndian_beBytes (len n : Nat) : bigEndian (beBytes len n) = n % 256 ^ len := by
  induction len generalizing n with
  | zero => simp [beBytes, bigEndian, Nat.mod_one]
  | succ len ih =>
    rw [beBytes, bigEndian_append, ih, UInt8.toNat_ofNat_of_lt (Nat.mod_lt _ (by decide)), Nat.pow_succ,
      Nat.mul_comm (256 ^ len), Nat.mod_mul, Nat.add_comm, Nat.mul_comm]

theorem toBeBytes_fromBeBytes (bytes : Mathlib.Vector UInt8 32) :
    (B256.fromBeBytes bytes).toBeBytes = bytes := by
  apply Subtype.ext
  have bound : bigEndian bytes.toList < 2 ^ 256 := by
    simpa [Mathlib.Vector.toList_length] using bigEndian_lt bytes.toList
  show beBytes 32 (BitVec.ofNat 256 (bigEndian bytes.toList)).toNat = bytes.toList
  rw [BitVec.toNat_ofNat, Nat.mod_eq_of_lt bound]
  simpa [Mathlib.Vector.toList_length] using beBytes_bigEndian bytes.toList

theorem fromBeBytes_toBeBytes (n : B256) : B256.fromBeBytes n.toBeBytes = n := by
  apply BitVec.eq_of_toNat_eq
  show (BitVec.ofNat 256 (bigEndian (beBytes 32 n.toNat))).toNat = n.toNat
  rw [bigEndian_beBytes, BitVec.toNat_ofNat, show (256 : Nat) ^ 32 = 2 ^ 256 by decide, Nat.mod_mod,
    Nat.mod_eq_of_lt n.isLt]

/-- Big-endian decoding of 32 bytes is a bijection onto the digests, with reading
back as its inverse. -/
theorem fromBeBytes_bijective :
    (∀ bytes, (B256.fromBeBytes bytes).toBeBytes = bytes) ∧ ∀ n, B256.fromBeBytes n.toBeBytes = n :=
  ⟨toBeBytes_fromBeBytes, fromBeBytes_toBeBytes⟩

/-- Two digest constants of one context compare equal exactly when they were built
from the same 32 bytes in the same order. -/
theorem newB256_eq_iff (context : Context) (bytes other : Mathlib.Vector UInt8 32) :
    (newB256 context bytes).eq context (newB256 context other) = true ↔ bytes = other := by
  simp only [newB256, eq_mk, IrType.eq_self, eqValue_b256, Bool.true_and, beq_iff_eq]
  exact ⟨fun same => by rw [← toBeBytes_fromBeBytes bytes, same, toBeBytes_fromBeBytes], congrArg _⟩

end SwayIr.Proofs
