/-
Names of classes and methods against the names they are made from. An underscore only says where a
part ends: what stands on its two sides is made into a name apart (`pascalChars_append`), so that
underscores at either end or beside others leave no trace. A part becomes itself with its first
letter raised, which is why a made name is made into itself, even if that letter became several
ones (`pascalCase_underscores`).
-/
import AnnotatedEntity.Naming
import AnnotatedEntity.Proofs.Text.LetterCase

namespace AnnotatedEntity

variable {s : List Char} {c : Char}

/-! ## One underscore -/

/-- The parts on the two sides of an underscore are made into names apart. -/
theorem pascalChars_append (a b : List Char) :
    pascalChars (a ++ '_' :: b) = pascalChars a ++ pascalChars b := by
  rw [pascalChars, List.splitOn_append_cons_self, List.flatMap_append, ← pascalChars,
    ← pascalChars]

theorem pascalChars_underscore (s : List Char) : pascalChars ('_' :: s) = pascalChars s :=
  pascalChars_append [] s

theorem pascalChars_of_not_mem (h : '_' ∉ s) : pascalChars s = Text.capitalize s := by
  rw [pascalChars, List.splitOn_eq_singleton h, List.flatMap_singleton]

/-- Any other character begins a part, and is raised. -/
theorem pascalChars_cons (h : c ≠ '_') (s : List Char) :
    ∃ rest, pascalChars (c :: s) = Text.upperChar c ++ rest := by
  obtain ⟨first, others, hparts⟩ := List.exists_cons_of_ne_nil (List.splitOn_ne_nil '_' s)
  have hsep : ¬ (c == '_') = true := fun heq => h (beq_iff_eq.mp heq)
  refine ⟨first ++ others.flatMap Text.capitalize, ?_⟩
  rw [pascalChars, List.splitOn_cons_eq_if_modifyHead, if_neg hsep, hparts, List.modifyHead_cons,
    List.flatMap_cons, Text.capitalize, List.append_assoc]

/-! ## A whole name -/

theorem not_mem_pascalChars (s : List Char) : '_' ∉ pascalChars s := by
  intro h
  obtain ⟨part, hpart, hmem⟩ := List.mem_flatMap.mp h
  exact Text.not_mem_of_mem_splitOn hpart (Text.mem_of_mem_capitalize (by decide) hmem)

theorem pascalChars_eq_nil_iff : pascalChars s = [] ↔ ∀ c ∈ s, c = '_' := by
  induction s with
  | nil => exact iff_of_true rfl fun _ h => by cases h
  | cons c s ih =>
    rw [List.forall_mem_cons]
    by_cases hc : c = '_'
    · rw [hc, pascalChars_underscore, ih, and_iff_right rfl]
    · obtain ⟨rest, hrest⟩ := pascalChars_cons hc s
      rw [hrest, List.append_eq_nil_iff]
      exact iff_of_false (fun h => Text.upperChar_ne_nil c h.1) fun h => hc h.1

/-- The first letter of a made name is raised already. -/
theorem capitalize_pascalChars (s : List Char) :
    Text.capitalize (pascalChars s) = pascalChars s := by
  induction s with
  | nil => rfl
  | cons c s ih =>
    by_cases hc : c = '_'
    · rwa [hc, pascalChars_underscore]
    · obtain ⟨rest, hrest⟩ := pascalChars_cons hc s
      rw [hrest, Text.capitalize_upperChar_append]

/-! ## Rows of underscores -/

def underscores (n : Nat) : List Char := List.replicate n '_'

theorem pascalChars_underscores_append (n : Nat) (s : List Char) :
    pascalChars (underscores n ++ s) = pascalChars s := by
  induction n with
  | zero => rfl
  | succ n ih =>
    rw [underscores, List.replicate_succ, List.cons_append, pascalChars_underscore]
    exact ih

theorem pascalChars_append_underscores (s : List Char) (n : Nat) :
    pascalChars (s ++ underscores n) = pascalChars s := by
  cases n with
  | zero => rw [underscores, List.replicate_zero, List.append_nil]
  | succ n =>
    have hnone : pascalChars (List.replicate n '_') = [] :=
      pascalChars_eq_nil_iff.mpr fun _ h => List.eq_of_mem_replicate h
    rw [underscores, List.replicate_succ, pascalChars_append, hnone, List.append_nil]

theorem pascalChars_append_underscores_append (a b : List Char) (n : Nat) :
    pascalChars (a ++ '_' :: (underscores n ++ b)) = pascalChars (a ++ '_' :: b) := by
  rw [pascalChars_append, pascalChars_underscores_append, ← pascalChars_append]

/-- **Names and underscores.** What stands on the two sides of an underscore is made into names
apart, and what holds none has its first letter raised. No underscore is left, nothing at all is
left of underscores alone, and it makes no difference how many stand in one place, or if any stand
at the ends. A made name is made into itself. -/
theorem pascalCase_underscores (s : String) :
    (∀ a b, pascalCase (a ++ "_" ++ b) = pascalCase a ++ pascalCase b) ∧
    ('_' ∉ s.toList → pascalCase s = Text.onString Text.capitalize s) ∧
    '_' ∉ (pascalCase s).toList ∧
    (pascalCase s = "" ↔ ∀ c ∈ s.toList, c = '_') ∧
    (∀ n, pascalCase (String.ofList (underscores n) ++ s) = pascalCase s ∧
      pascalCase (s ++ String.ofList (underscores n)) = pascalCase s) ∧
    (∀ a b n, pascalCase (a ++ "_" ++ String.ofList (underscores n) ++ b) =
      pascalCase (a ++ "_" ++ b)) ∧
    pascalCase (pascalCase s) = pascalCase s := by
  have hchars (t : String) : (pascalCase t).toList = pascalChars t.toList :=
    Text.toList_onString pascalChars t
  refine ⟨fun a b => ?apart, fun h => ?part, ?none, ?empty, fun n => ⟨?front, ?back⟩,
    fun a b n => ?between, ?again⟩
  case apart =>
    simp [← String.toList_inj, hchars, pascalChars_append]
  case part =>
    rw [pascalCase, Text.onString, pascalChars_of_not_mem h, Text.onString]
  case none =>
    rw [hchars]
    exact not_mem_pascalChars s.toList
  case empty =>
    rw [← String.toList_eq_nil_iff, hchars, pascalChars_eq_nil_iff]
  case front =>
    simp [← String.toList_inj, hchars, pascalChars_underscores_append]
  case back =>
    simp [← String.toList_inj, hchars, pascalChars_append_underscores]
  case between =>
    simp [← String.toList_inj, hchars, pascalChars_append_underscores_append]
  case again =>
    rw [← String.toList_inj, hchars, hchars, pascalChars_of_not_mem (not_mem_pascalChars _),
      capitalize_pascalChars]

/-- A ligature becomes two letters, of which the first is not raised again. -/
example : pascalCase "__ﬁx_ßide" = "FIxSSide" ∧ pascalCase "FIxSSide" = "FIxSSide" := by
  decide +kernel

end AnnotatedEntity
