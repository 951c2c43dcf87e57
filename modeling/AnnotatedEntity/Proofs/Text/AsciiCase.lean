/-
Case on the characters of ASCII. The tables of Unicode hold nothing below code point 128 but the
run of the twenty-six letters, so that an ASCII text is lowered letter by letter (`lower_ascii`).
-/
import AnnotatedEntity.Text.Case

namespace AnnotatedEntity.Text

/-- What holds of all ASCII characters, code point by code point. -/
theorem forall_ascii {P : Char → Prop} (h : ∀ n, n < 128 → P (Char.ofNat n)) {c : Char}
    (hc : c.toNat < 128) : P c := by
  rw [← Char.ofNat_toNat c]
  exact h c.toNat hc

theorem lowerSequences_not_ascii : ∀ s ∈ lowerSequences, 128 ≤ s.1 := by decide

/-- Behind the run of the capital letters of ASCII there is nothing of ASCII. -/
theorem lowerRuns_eq_cons :
    ∃ runs, lowerRuns = ⟨0x41, 0x5A, 1, 32⟩ :: runs ∧ ∀ r ∈ runs, 128 ≤ r.first :=
  ⟨lowerRuns.tail, rfl, by decide +kernel⟩

theorem find?_lowerSequences {c : Char} (h : c.toNat < 128) :
    lowerSequences.find? (·.1 == c.toNat) = none := by
  rw [List.find?_eq_none]
  intro s hs heq
  have := lowerSequences_not_ascii s hs
  rw [beq_iff_eq] at heq
  omega

theorem toLower_ofNat : ∀ n, n < 128 → (Char.ofNat n).toLower =
    if 65 ≤ n ∧ n ≤ 90 then Char.ofNat (n + 32) else Char.ofNat n := by decide

theorem lowerChar_ascii {c : Char} (h : c.toNat < 128) : lowerChar c = [c.toLower] := by
  obtain ⟨runs, heq, hruns⟩ := lowerRuns_eq_cons
  have hnone : runs.find? (·.covers c.toNat) = none := by
    rw [List.find?_eq_none]
    intro r hr hc
    have := hruns r hr
    simp only [CaseRun.covers, Bool.and_eq_true, decide_eq_true_eq] at hc
    omega
  have hlower := toLower_ofNat c.toNat h
  rw [Char.ofNat_toNat] at hlower
  rw [lowerChar, counterpart, find?_lowerSequences h, heq, List.find?_cons, hnone, hlower]
  by_cases hu : 65 ≤ c.toNat ∧ c.toNat ≤ 90
  · have hsum : ((c.toNat : Int) + 32).toNat = c.toNat + 32 := by omega
    simp [CaseRun.covers, hu, Nat.mod_one, CaseRun.image, hsum]
  · have hc : ({ first := 0x41, last := 0x5A, step := 1, offset := 32 } : CaseRun).covers c.toNat
        = false := by
      simpa [CaseRun.covers, Nat.mod_one] using hu
    simp [hc, hu]

/-- Beyond ASCII there is no letter that is lowered by itself. -/
theorem toLower_of_not_ascii {c : Char} (h : 128 ≤ c.toNat) : c.toLower = c := by
  have hcapital : ¬ (c.val ≥ 'A'.val ∧ c.val ≤ 'Z'.val) := fun ⟨_, hlast⟩ => by
    have hz : c.toNat ≤ 90 := UInt32.le_iff_toNat_le.mp hlast
    omega
  exact dif_neg hcapital

theorem ascii_toLower_iff {c : Char} : c.toLower.toNat < 128 ↔ c.toNat < 128 := by
  by_cases h : c.toNat < 128
  · exact iff_of_true (forall_ascii (P := fun c => c.toLower.toNat < 128) (by decide) h) h
  · rw [toLower_of_not_ascii (Nat.le_of_not_lt h)]

theorem lowerAfter_ascii : ∀ {s : List Char} (before : List Char), (∀ c ∈ s, c.toNat < 128) →
    lowerAfter before s = s.map Char.toLower
  | [], _, _ => rfl
  | c :: s, before, h => by
    obtain ⟨hc, hs⟩ := List.forall_mem_cons.mp h
    have hsigma : c ≠ 'Σ' := by
      rintro rfl
      revert hc
      decide
    rw [lowerAfter, if_neg hsigma, lowerChar_ascii hc, lowerAfter_ascii _ hs]
    rfl

/-- **An ASCII text in lower case** is its characters in lower case. -/
theorem lower_ascii {s : List Char} (h : ∀ c ∈ s, c.toNat < 128) : lower s = s.map Char.toLower :=
  lowerAfter_ascii [] h

end AnnotatedEntity.Text
