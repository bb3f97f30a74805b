import Sway.E2eVmTests.Toml
import Mathlib.Tactic.IntervalCases

/-! Hex decoding reads back what hex encoding writes, so that every byte string can be
given in a test description as its digits. -/

namespace E2eVmTests

theorem ofNat_toNat_byte (b : UInt8) : b.toNat.toUInt8 = b :=
  UInt8.eq_of_toBitVec_eq (by simp [UInt8.ofNat, UInt8.toNat])

/-- Each of the sixteen digits is one UTF-8 byte, and reads back as its value. -/
theorem digitChar_byte {n : Nat} (small : n < 16) (idx : Nat) :
    String.utf8EncodeChar (Nat.digitChar n) = [(Nat.digitChar n).val.toUInt8] ∧
      val (Nat.digitChar n).val.toUInt8 idx = .ok n.toUInt8 := by
  interval_cases n <;> exact ⟨rfl, rfl⟩

theorem nibbles_or : ∀ high low : Fin 16,
    (high.val.toUInt8 <<< 4 ||| low.val.toUInt8) = (16 * high.val + low.val).toUInt8 := by
  decide

theorem nibbles_byte (b : UInt8) : (b.toNat / 16).toUInt8 <<< 4 ||| (b.toNat % 16).toUInt8 = b := by
  have small : b.toNat < 256 := UInt8.toNat_lt_size b
  have joined := nibbles_or ⟨b.toNat / 16, by omega⟩ ⟨b.toNat % 16, by omega⟩
  dsimp only at joined
  rwa [Nat.div_add_mod, ofNat_toNat_byte] at joined

/-- The bytes of the digits of one byte. -/
def digitBytes (b : UInt8) : List UInt8 :=
  [(Nat.digitChar (b.toNat / 16)).val.toUInt8, (Nat.digitChar (b.toNat % 16)).val.toUInt8]

theorem toUTF8_encode (data : List UInt8) :
    (encode data).toUTF8.data.toList = data.flatMap digitBytes := by
  have small : ∀ b : UInt8, b.toNat < 256 := UInt8.toNat_lt_size
  induction data with
  | nil => rfl
  | cons b rest ih =>
    have high := digitChar_byte (n := b.toNat / 16) (by have := small b; omega) 0
    have low := digitChar_byte (n := b.toNat % 16) (by omega) 0
    simp only [encode, String.toUTF8, List.flatMap_cons, List.flatMap_append] at ih ⊢
    simp [ih, high.1, low.1, digitBytes]

theorem decodePairs_digitBytes (data : List UInt8) (i : Nat) :
    decodePairs (data.flatMap digitBytes) i = .ok data := by
  induction data generalizing i with
  | nil => rfl
  | cons b rest ih =>
    have small : b.toNat < 256 := UInt8.toNat_lt_size b
    have high := (digitChar_byte (n := b.toNat / 16) (by omega) (2 * i)).2
    have low := (digitChar_byte (n := b.toNat % 16) (by omega) (2 * i + 1)).2
    simp only [List.flatMap_cons, digitBytes, List.cons_append, List.nil_append]
    rw [decodePairs]
    simp only [high, low, ih, bind, Except.bind, pure, Except.pure, nibbles_byte]

theorem decode_encode (data : List UInt8) : decode (encode data) = .ok data := by
  have even : (data.flatMap digitBytes).length % 2 = 0 := by
    induction data with
    | nil => rfl
    | cons b rest ih => simp only [List.flatMap_cons, List.length_append, digitBytes]; simpa [Nat.add_mod] using ih
  simp only [decode, toUTF8_encode, even, ne_eq, not_true_eq_false, if_false]
  exact decodePairs_digitBytes data 0

end E2eVmTests
