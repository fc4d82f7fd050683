/-
# Limits in signed 32-bit numbers

A limit and a counter are signed numbers of 32 bits, but what is added to the counter is unsigned,
and so is the number the rest is compared with. As long as the counter is within the limit, or at
zero when the limit is negative, none of this wraps.
-/
import Mathlib

namespace FunPvp.Lib

variable {x y : Int32} {k : ℕ} {amount : UInt32}

theorem toInt_eq (x : Int32) :
    x.toInt = if x.toUInt32.toNat < 2 ^ 31 then (x.toUInt32.toNat : ℤ)
      else (x.toUInt32.toNat : ℤ) - 2 ^ 32 := by
  have h := BitVec.toInt_eq_toNat_cond x.toBitVec
  have h1 : x.toInt = x.toBitVec.toInt := rfl
  have h2 : x.toUInt32.toNat = x.toBitVec.toNat := rfl
  rw [h1, h, h2]
  split <;> split <;> omega

theorem pos_iff_toInt_pos : x > 0 ↔ 0 < x.toInt := Int32.lt_iff_toInt_lt

theorem toNat_of_pos (h : x > 0) : (x.toUInt32.toNat : ℤ) = x.toInt := by
  have hpos := pos_iff_toInt_pos.mp h
  have hlt := x.toUInt32.toNat_lt
  rw [toInt_eq] at hpos ⊢
  split
  · rfl
  · rename_i hge
    rw [if_neg hge] at hpos
    omega

theorem toInt_sub_counter (hy : y.toInt = k) (hk : (k : ℤ) ≤ max 0 x.toInt) :
    (x - y).toInt = x.toInt - k := by
  have hlo := x.le_toInt
  have hhi := x.toInt_lt
  rw [Int32.toInt_sub, hy]
  exact Int.bmod_eq_of_le (by omega) (by omega)

theorem lt_of_sub_counter_pos (hy : y.toInt = k) (hk : (k : ℤ) ≤ max 0 x.toInt) (h : x - y > 0) :
    (k : ℤ) < x.toInt := by
  have hpos := pos_iff_toInt_pos.mp h
  rw [toInt_sub_counter hy hk] at hpos
  omega

theorem toInt_add_counter (hx : x.toInt = k) (hk : k + amount.toNat < 2 ^ 31) :
    (x.toUInt32 + amount).toInt32.toInt = k + amount.toNat := by
  have hamount : amount.toInt32.toInt = amount.toNat := by
    rw [toInt_eq]
    exact if_pos (show amount.toNat < 2 ^ 31 by omega)
  have hadd : (x.toUInt32 + amount).toInt32 = x + amount.toInt32 := rfl
  rw [hadd, Int32.toInt_add, hx, hamount]
  exact Int.bmod_eq_of_le (by omega) (by omega)

end FunPvp.Lib
