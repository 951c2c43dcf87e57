/-
What readers take from the front of a text that begins with what they are meant for. The lemma for
lists is `separated_append`: where a reader takes each element up to any text that may follow one,
the elements with a separator between them are taken as they are.
-/
import AnnotatedEntity.Text.Reader

namespace AnnotatedEntity.Text.Reader

variable {α β : Type}

/-! ## One reader after another -/

theorem bind_of_some {r : Reader α} {s rest : List Char} {a : α} (h : r s = some (a, rest))
    (f : α → Reader β) : (r >>= f) s = f a rest := by
  simp [bind, StateT.bind, h]

theorem bind_of_none {r : Reader α} {s : List Char} (h : r s = none) (f : α → Reader β) :
    (r >>= f) s = none := by
  simp [bind, StateT.bind, h]

theorem optionally_eq (r : Reader α) (s : List Char) : optionally r s =
    match r s with
    | some (a, rest) => some (some a, rest)
    | none => some (none, s) := by
  show (StateT.map some r s <|> some (none, s)) = _
  cases h : r s <;> simp [StateT.map, h]

/-! ## Characters -/

theorem satisfy_of_head {p : Char → Bool} {s : List Char} (h : ∀ c ∈ s.head?, p c = false) :
    satisfy p s = none := by
  cases s with
  | nil => rfl
  | cons c rest => simp [satisfy, h c rfl]

theorem forM_char_append : ∀ l rest : List Char,
    (l.forM fun c => do let _ ← char c : Reader Unit) (l ++ rest) = some ((), rest)
  | [], _ => rfl
  | c :: l, rest => by
    have hc : char c (c :: (l ++ rest)) = some (c, l ++ rest) := by simp [char, satisfy]
    exact (bind_of_some (bind_of_some hc _) _).trans (forM_char_append l rest)

/-- A literal takes its own text. -/
theorem literal_append (s : String) (rest : List Char) :
    literal s (s.toList ++ rest) = some ((), rest) :=
  forM_char_append s.toList rest

/-- A literal fails where another character stands than its first. -/
theorem literal_of_head {literalText : String} {c : Char} {cs s : List Char}
    (hl : literalText.toList = c :: cs) (h : s.head? ≠ some c) : literal literalText s = none := by
  have hc : char c s = none := satisfy_of_head fun d hd => by
    rw [beq_eq_false_iff_ne]
    rintro rfl
    exact h hd
  rw [literal, hl]
  exact bind_of_none (bind_of_none hc _) _

theorem span_append {p : Char → Bool} {s rest : List Char} (hs : ∀ c ∈ s, p c = true)
    (hrest : ∀ c ∈ rest.head?, p c = false) : span p (s ++ rest) = some (s, rest) := by
  have hstop : rest.takeWhile p = [] ∧ rest.dropWhile p = rest := by
    cases rest with
    | nil => exact ⟨rfl, rfl⟩
    | cons c rest =>
      have hc := hrest c rfl
      simp [hc]
  rw [span, List.takeWhile_append_of_pos hs, List.dropWhile_append_of_pos hs, hstop.1, hstop.2,
    List.append_nil]

theorem someSpan_append {p : Char → Bool} {s rest : List Char} (hne : s ≠ [])
    (hs : ∀ c ∈ s, p c = true) (hrest : ∀ c ∈ rest.head?, p c = false) :
    someSpan p (s ++ rest) = some (s, rest) := by
  rw [someSpan, bind_of_some (span_append hs hrest)]
  have hempty : (!s.isEmpty) = true := by simpa using hne
  rw [hempty]
  rfl

/-! ## Lists -/

theorem intercalate_map_cons (sep : List β) (text : α → List β) : ∀ (a : α) (l : List α),
    sep.intercalate ((a :: l).map text) = text a ++ l.flatMap fun b => sep ++ text b
  | a, [] => by simp
  | a, b :: l => by
    rw [List.map_cons, List.map_cons, List.intercalate_cons_cons, ← List.map_cons,
      intercalate_map_cons sep text b l, List.flatMap_cons, List.append_assoc, List.append_assoc]

theorem many_of_none {r : Reader α} {s : List Char} (h : r s = none) : many r s = some ([], s) := by
  rw [many, h]

theorem many_of_some {r : Reader α} {s rest rest' : List Char} {a : α} {as : List α}
    (h : r s = some (a, rest)) (hlt : rest.length < s.length)
    (hrest : many r rest = some (as, rest')) : many r s = some (a :: as, rest') := by
  rw [many, h]
  simp only [hlt, if_true, hrest, Option.map_some]

section Separated

variable {separator : String} {r : Reader α} {text : α → List Char} {Ends : List Char → Prop}
  {rest : List Char}

theorem ends_flatMap (hsep : ∀ s, Ends (separator.toList ++ s)) (hrest : Ends rest) : ∀ l : List α,
    Ends (l.flatMap (fun a => separator.toList ++ text a) ++ rest)
  | [] => hrest
  | a :: l => by
    rw [List.flatMap_cons, List.append_assoc, List.append_assoc]
    exact hsep _

/-- Elements with a separator before each. -/
theorem many_append (hne : separator.toList ≠ []) (hsep : ∀ s, Ends (separator.toList ++ s))
    (hrest : Ends rest) (hnone : literal separator rest = none) : ∀ {l : List α},
    (∀ a ∈ l, ∀ s, Ends s → r (text a ++ s) = some (a, s)) →
    many (do let _ ← literal separator; r)
      (l.flatMap (fun a => separator.toList ++ text a) ++ rest) = some (l, rest)
  | [], _ => many_of_none (bind_of_none hnone _)
  | a :: l, h => by
    obtain ⟨ha, hl⟩ := List.forall_mem_cons.mp h
    rw [List.flatMap_cons, List.append_assoc, List.append_assoc]
    refine many_of_some ((bind_of_some (literal_append separator _) _).trans
      (ha _ (ends_flatMap hsep hrest l))) ?_ (many_append hne hsep hrest hnone hl)
    have hpos := List.length_pos_iff.mpr hne
    simp only [List.length_append]
    omega

/-- **Elements between which a separator stands** are taken as they are, whatever stands in them,
if only the reader of an element stops before what may follow one. -/
theorem separated_append (hne : separator.toList ≠ []) (hsep : ∀ s, Ends (separator.toList ++ s))
    (hrest : Ends rest) (hnone : literal separator rest = none) {l : List α} (hl : l ≠ [])
    (h : ∀ a ∈ l, ∀ s, Ends s → r (text a ++ s) = some (a, s)) :
    separated (literal separator) r (separator.toList.intercalate (l.map text) ++ rest) =
      some (l, rest) := by
  obtain ⟨a, l, rfl⟩ := List.exists_cons_of_ne_nil hl
  obtain ⟨ha, hothers⟩ := List.forall_mem_cons.mp h
  rw [intercalate_map_cons, List.append_assoc, separated,
    bind_of_some (ha _ (ends_flatMap hsep hrest l)),
    bind_of_some (many_append hne hsep hrest hnone hothers)]
  rfl

end Separated

end AnnotatedEntity.Text.Reader
