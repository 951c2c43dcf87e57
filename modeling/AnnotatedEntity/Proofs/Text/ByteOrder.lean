/-
Texts in the order of their characters are in the order of their bytes in UTF-8, too
(`bytes_lt_of_lt`): a greater code point has a greater encoding, and no encoding begins another.
-/

namespace AnnotatedEntity.Text

/-- The bytes of a text in UTF-8. -/
def bytes (s : String) : List UInt8 := s.toUTF8.data.toList

theorem bytes_eq (s : String) : bytes s = s.toList.flatMap String.utf8EncodeChar := by
  rw [bytes, String.toUTF8_eq_toByteArray, ← String.ofList_toList (s := s),
    String.toByteArray_ofList, String.toList_ofList]
  simp [List.utf8Encode]

/-- Numbers are in the order of their digits in base 64, the greatest digit first. -/
theorem digits_lt_of_lt {m n : Nat} (h : m < n) :
    m / 262144 < n / 262144 ∨ m / 262144 = n / 262144 ∧
      (m / 4096 % 64 < n / 4096 % 64 ∨ m / 4096 % 64 = n / 4096 % 64 ∧
        (m / 64 % 64 < n / 64 % 64 ∨ m / 64 % 64 = n / 64 % 64 ∧ m % 64 < n % 64)) := by
  have step (m n : Nat) (h : m < n) : m / 64 < n / 64 ∨ m / 64 = n / 64 ∧ m % 64 < n % 64 := by
    omega
  have hdiv (n : Nat) : n / 64 / 64 = n / 4096 ∧ n / 4096 / 64 = n / 262144 := by
    simp [Nat.div_div_eq_div_mul]
  obtain ⟨hm, hm'⟩ := hdiv m
  obtain ⟨hn, hn'⟩ := hdiv n
  rcases step m n h with h1 | ⟨h1, h0⟩
  · rcases step _ _ h1 with h2 | ⟨h2, h1⟩
    · rcases step _ _ h2 with h3 | ⟨h3, h2⟩ <;> omega
    · omega
  · omega

/-- Of two characters the greater one has the greater encoding, whatever follows. -/
theorem encoded_lt_of_lt {c d : Char} (h : c < d) (x y : List UInt8) :
    String.utf8EncodeChar c ++ x < String.utf8EncodeChar d ++ y := by
  have hlt : c.val.toNat < d.val.toNat := by simpa [Char.lt_def, UInt32.lt_iff_toNat_lt] using h
  have hmax : d.val.toNat < 0x110000 := by
    have := d.valid
    simp only [UInt32.isValidChar, Nat.isValidChar] at this
    omega
  have hdigits := digits_lt_of_lt hlt
  have hlead (n : Nat) (hn : n < 0x110000) :
      (n / 262144 % 8 + 240) % 256 = n / 262144 + 240 := by
    omega
  have hrest (n : Nat) : (n % 64 + 128) % 256 = n % 64 + 128 := by omega
  -- The number of bytes grows with the code point, and so does their first one.
  simp only [String.utf8EncodeChar]
  repeat' split
  all_goals
    simp only [List.cons_append, List.nil_append, List.cons_lt_cons_iff, UInt8.lt_iff_toNat_lt,
      ← UInt8.toNat_inj, UInt8.toNat_ofNat', Nat.reducePow, hlead _ hmax,
      hlead _ (Nat.lt_trans hlt hmax), hrest]
    omega

theorem append_lt_append_iff (p x y : List UInt8) : p ++ x < p ++ y ↔ x < y := by
  induction p with
  | nil => rfl
  | cons b p ih => rw [List.cons_append, List.cons_append, List.cons_lt_cons_self, ih]

theorem flatMap_encoded_lt_of_lt {l m : List Char} (h : l < m) :
    l.flatMap String.utf8EncodeChar < m.flatMap String.utf8EncodeChar := by
  induction h with
  | @nil d m =>
    rw [List.flatMap_nil, List.flatMap_cons]
    cases hd : String.utf8EncodeChar d with
    | nil => exact absurd hd String.utf8EncodeChar_ne_nil
    | cons b bs => exact List.nil_lt_cons b _
  | rel hlt =>
    rw [List.flatMap_cons, List.flatMap_cons]
    exact encoded_lt_of_lt hlt _ _
  | cons _ ih =>
    rw [List.flatMap_cons, List.flatMap_cons]
    exact (append_lt_append_iff _ _ _).mpr ih

/-- **The order of texts is the order of their bytes.** -/
theorem bytes_lt_of_lt {s t : String} (h : s < t) : bytes s < bytes t := by
  rw [bytes_eq, bytes_eq]
  exact flatMap_encoded_lt_of_lt (String.lt_iff.mp h)

end AnnotatedEntity.Text
