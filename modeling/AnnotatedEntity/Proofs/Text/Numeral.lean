/-
Whole numbers written in decimal and read back. There is no bound on them here: what fits 64 bits
is a question of its own.
-/
import AnnotatedEntity.Text.Integer
import Mathlib.Data.List.Basic

namespace AnnotatedEntity.Text

theorem digitsValue_eq_ofDigitChars {s : List Char} (h : ∀ c ∈ s, c.isDigit = true) :
    digitsValue 10 s = Nat.ofDigitChars 10 s 0 := by
  rw [digitsValue, Nat.ofDigitChars_eq_foldl]
  refine List.foldl_ext _ _ 0 fun n c hc => ?_
  rw [digitValue, if_pos (h c hc), Nat.mul_comm]
  rfl

/-- A number's own digits have its value. -/
theorem natural?_toDigits (n : Nat) : natural? (Nat.toDigits 10 n) = some n := by
  have hdigits : ∀ c ∈ Nat.toDigits 10 n, c.isDigit = true := fun _ =>
    Nat.isDigit_of_mem_toDigits (by decide) (by decide)
  have hall : (Nat.toDigits 10 n).all Char.isDigit = true := List.all_eq_true.mpr hdigits
  simp [natural?, Nat.toDigits_ne_nil, hall, digitsValue_eq_ofDigitChars hdigits]

/-- The value of a decimal numeral, with a minus in front or without. -/
def signed? : List Char → Option Int
  | '-' :: digits => (natural? digits).map fun n : Nat => -(n : Int)
  | digits => (natural? digits).map fun n : Nat => (n : Int)

theorem toList_toString_int (n : Int) : (toString n).toList =
    if n < 0 then '-' :: Nat.toDigits 10 n.natAbs else Nat.toDigits 10 n.natAbs := by
  cases n with
  | ofNat n =>
    have hneg : ¬Int.ofNat n < 0 := Int.not_lt.mpr (Int.natCast_nonneg n)
    rw [if_neg hneg]
    exact Nat.toList_repr
  | negSucc n =>
    rw [if_pos (Int.negSucc_lt_zero n)]
    show ("-" ++ Nat.repr (n + 1)).toList = '-' :: Nat.toDigits 10 (n + 1)
    rw [String.toList_append, Nat.toList_repr]
    rfl

/-- A number is written with digits and a minus. -/
theorem mem_toString_int {n : Int} {c : Char} (h : c ∈ (toString n).toList) :
    c = '-' ∨ c.isDigit = true := by
  have hdigit : ∀ {c}, c ∈ Nat.toDigits 10 n.natAbs → c.isDigit = true :=
    Nat.isDigit_of_mem_toDigits (by decide) (by decide)
  rw [toList_toString_int] at h
  split at h
  · exact (List.mem_cons.mp h).imp_right hdigit
  · exact .inr (hdigit h)

theorem toNat_of_mem_toString_int {n : Int} {c : Char} (h : c ∈ (toString n).toList) :
    '-'.toNat ≤ c.toNat ∧ c.toNat ≤ '9'.toNat := by
  rcases mem_toString_int h with rfl | h
  · decide
  · obtain ⟨hfirst, hlast⟩ := Char.isDigit_iff_toNat.mp h
    exact ⟨Nat.le_trans (by decide) hfirst, hlast⟩

/-- **A number is read back** from its decimal form. -/
theorem signed?_toString (n : Int) : signed? (toString n).toList = some n := by
  rw [toList_toString_int]
  split
  next hneg =>
    rw [signed?, natural?_toDigits, Option.map_some]
    congr 1
    omega
  next hneg =>
    have hne : ∀ digits, Nat.toDigits 10 n.natAbs ≠ '-' :: digits := fun digits heq => by
      have hdigit : '-'.isDigit = true :=
        Nat.isDigit_of_mem_toDigits (b := 10) (by decide) (by decide) (heq ▸ List.mem_cons_self)
      exact absurd hdigit (by decide)
    rw [signed?, natural?_toDigits, Option.map_some]
    · congr 1
      omega
    · exact hne

/-- Without a plus in front, a numeral of 64 bits is any numeral whose value fits. -/
theorem integer?_eq_filter {s : List Char} (h : '+' ∉ s) :
    integer? s = (signed? s).filter fits64 := by
  unfold integer?
  split
  · next digits => rw [signed?]; cases natural? digits <;> rfl
  · exact absurd List.mem_cons_self h
  · next hminus _ =>
    rw [signed?]
    · cases natural? s <;> rfl
    · exact hminus

/-- **A number of 64 bits is read back** from its decimal form. -/
theorem integer?_toString {n : Int} (h : fits64 n = true) :
    integer? (toString n).toList = some n := by
  have hplus : '+' ∉ (toString n).toList := fun hmem =>
    absurd (toNat_of_mem_toString_int hmem) (by decide)
  rw [integer?_eq_filter hplus, signed?_toString, Option.filter_some, if_pos h]

end AnnotatedEntity.Text
