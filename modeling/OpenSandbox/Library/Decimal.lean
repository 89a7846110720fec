import Mathlib.Data.Nat.Digits.Lemmas
import Mathlib.Tactic

namespace Decimal

open List Bool String

def digitChar (d : Nat) : Char := Char.ofNat (48 + d)

def digitsOf (n : Nat) : List Nat := if n = 0 then [0] else (Nat.digits 10 n).reverse

def formatUint (n : Nat) : String := String.ofList ((digitsOf n).map digitChar)

def isDigit (c : Char) : Bool := '0' ≤ c && c ≤ '9'

def value (digits : List Char) : Nat := digits.foldl (fun n c => 10 * n + (c.toNat - 48)) 0

def canonical (text : String) : Bool :=
  let digits := text.toList
  digits ≠ [] && !(digits.length > 1 && digits.head? = some '0') && digits.all isDigit &&
    value digits < 2 ^ 64

theorem digitChar_table : ∀ d < 10,
    isDigit (digitChar d) = true ∧ (digitChar d).toNat - 48 = d ∧ (digitChar d = '0' → d = 0) := by
  decide

theorem digitsOf_lt {n d : Nat} (h : d ∈ digitsOf n) : d < 10 := by
  unfold digitsOf at h
  split_ifs at h
  · have hzero : d = 0 := mem_singleton.mp h
    omega
  · exact Nat.digits_lt_base (by decide) (mem_reverse.mp h)

theorem value_map_digitChar {ds : List Nat} (h : ∀ d ∈ ds, d < 10) :
    value (ds.map digitChar) = Nat.ofDigits 10 ds.reverse := by
  have hfold (acc : Nat) : (ds.map digitChar).foldl (fun n c => 10 * n + (c.toNat - 48)) acc =
      acc * 10 ^ ds.length + Nat.ofDigits 10 ds.reverse := by
    induction ds generalizing acc with
    | nil => simp
    | cons d ds ih =>
      have hd := (digitChar_table d (h d mem_cons_self)).2.1
      rw [map_cons,foldl_cons,ih (fun e he => h e (mem_cons_of_mem d he)),hd,reverse_cons,
        Nat.ofDigits_append,length_reverse,Nat.ofDigits_singleton,length_cons]
      ring
  rw [value,hfold 0,Nat.zero_mul,Nat.zero_add]

theorem ofDigits_digitsOf (n : Nat) : Nat.ofDigits 10 (digitsOf n).reverse = n := by
  unfold digitsOf
  split_ifs with h
  · simp [h]
  · rw [reverse_reverse,Nat.ofDigits_digits]

theorem value_formatUint (n : Nat) : value (formatUint n).toList = n := by
  rw [formatUint,toList_ofList,value_map_digitChar fun d hd => digitsOf_lt hd,ofDigits_digitsOf]

theorem formatUint_injective : Function.Injective formatUint := by
  intro m n h
  rw [← value_formatUint m,h,value_formatUint]

theorem digitsOf_ne_nil (n : Nat) : digitsOf n ≠ [] := by
  unfold digitsOf
  split_ifs with h
  · simp
  · rw [ne_eq,reverse_eq_nil_iff]
    exact Nat.digits_ne_nil_iff_ne_zero.mpr h

theorem formatUint_ne_nil (n : Nat) : (formatUint n).toList ≠ [] := by
  rw [formatUint,toList_ofList]
  simpa using digitsOf_ne_nil n

theorem length_formatUint_le {n k : Nat} (hk : 0 < k) (h : n < 10 ^ k) :
    (formatUint n).toList.length ≤ k := by
  rw [formatUint,toList_ofList,List.length_map,digitsOf]
  split_ifs
  · exact hk
  · rwa [length_reverse,Nat.digits_length_le_iff (by decide)]

theorem isDigit_of_mem_formatUint {n : Nat} {c : Char} (h : c ∈ (formatUint n).toList) :
    isDigit c = true := by
  rw [formatUint,toList_ofList] at h
  obtain ⟨d,hd,rfl⟩ := mem_map.mp h
  exact (digitChar_table d (digitsOf_lt hd)).1

theorem head_formatUint {n : Nat} (h : (formatUint n).toList.head? = some '0') : n = 0 := by
  by_contra hn
  rw [formatUint,toList_ofList,digitsOf,if_neg hn,head?_map,head?_reverse,
    getLast?_eq_some_getLast (Nat.digits_ne_nil_iff_ne_zero.mpr hn)] at h
  have hlast := Nat.getLast_digit_ne_zero 10 hn
  have hlt : (Nat.digits 10 n).getLast (Nat.digits_ne_nil_iff_ne_zero.mpr hn) < 10 :=
    Nat.digits_lt_base (by decide) (getLast_mem _)
  exact hlast ((digitChar_table _ hlt).2.2 (Option.some.inj h))

theorem canonical_formatUint {n : Nat} (h : n < 2 ^ 64) : canonical (formatUint n) = true := by
  have hdigits : (formatUint n).toList.all isDigit = true :=
    List.all_eq_true.mpr fun c hc => isDigit_of_mem_formatUint hc
  have hlead : ¬ ((formatUint n).toList.length > 1 ∧ (formatUint n).toList.head? = some '0') := by
    rintro ⟨hlen,hhead⟩
    rw [head_formatUint hhead] at hlen
    exact absurd hlen (by decide)
  simp only [canonical,hdigits,value_formatUint,formatUint_ne_nil,ne_eq,not_false_eq_true,
    decide_true,Bool.true_and,Bool.and_true,h,Bool.not_eq_true',Bool.and_eq_false_iff,
    decide_eq_false_iff_not]
  by_contra hno
  push Not at hno
  exact hlead hno

end Decimal
