/-
The names of mapped types. A text names a built-in type in whatever case it is written, and every
other text names a type of its own, which keeps the text (`ofName_cases`). So a type that was named
is named by its own name again, and two texts name one type only where they are the same or two
spellings of a built-in name. A tag that writes arrays as JSON still names a type that is carried
as the same native one (`ofName_spellings`).
-/
import AnnotatedEntity.Converter
import AnnotatedEntity.Proofs.Text.AsciiCase

namespace AnnotatedEntity.MappedType

/-- The names of the built-in types, in lower case. -/
def builtinNames : List String := builtins.map name

theorem mem_builtins_iff {m : MappedType} : m ∈ builtins ↔ m.isCustom = false := by
  cases m <;> simp [builtins, isCustom]

theorem custom_not_mem_builtins (kept : String) : custom kept ∉ builtins := fun h =>
  Bool.noConfusion (mem_builtins_iff.mp h)

/-! ## The built-in names -/

/-- The built-in names are in lower case. -/
theorem lower_name_of_builtin {m : MappedType} (hm : m ∈ builtins) :
    Text.onString Text.lower m.name = m.name := by
  have hsmall : ∀ c ∈ m.name.toList, c.toNat < 128 ∧ c.toLower = c := by
    cases m with
    | custom kept => exact absurd hm (custom_not_mem_builtins kept)
    | _ => simp [name]
  have hlower : m.name.toList.map Char.toLower = m.name.toList :=
    (List.map_congr_left fun c hc => (hsmall c hc).2).trans (List.map_id' _)
  rw [Text.onString, Text.lower_ascii fun c hc => (hsmall c hc).1, hlower,
    String.ofList_toList]

theorem ofName_name_of_builtin {m : MappedType} (hm : m ∈ builtins) : ofName m.name = m := by
  have hfind : builtins.find? (·.name == m.name) = some m := by
    cases m with
    | custom kept => exact absurd hm (custom_not_mem_builtins kept)
    | _ => decide
  rw [ofName, lower_name_of_builtin hm, hfind, Option.getD_some]

/-- What a tag says of a built-in type is the name of one that is carried alike. -/
theorem native_ofName_tagName_of_builtin {m : MappedType} (hm : m ∈ builtins) :
    (ofName m.tagName).native = m.native := by
  by_cases harray : m = .array
  · rw [harray, tagName, ofName_name_of_builtin (by decide)]
    rfl
  · rw [tagName, ofName_name_of_builtin hm]
    exact harray

theorem name_inj_of_builtin {m m' : MappedType} (hm : m ∈ builtins) (hm' : m' ∈ builtins)
    (h : m.name = m'.name) : m = m' := by
  rw [← ofName_name_of_builtin hm, h, ofName_name_of_builtin hm']

/-! ## Any text -/

/-- A text in lower case is the name of a built-in type, or the text names a type of its own. -/
theorem ofName_cases (s : String) :
    (∃ m ∈ builtins, m.name = Text.onString Text.lower s ∧ ofName s = m) ∨
      Text.onString Text.lower s ∉ builtinNames ∧ ofName s = .custom s := by
  match h : builtins.find? (·.name == Text.onString Text.lower s) with
  | some m =>
    have hname : m.name = Text.onString Text.lower s := by simpa using List.find?_some h
    exact .inl ⟨m, List.mem_of_find?_eq_some h, hname, by rw [ofName, h, Option.getD_some]⟩
  | none =>
    refine .inr ⟨fun hmem => ?_, by rw [ofName, h, Option.getD_none]⟩
    obtain ⟨m, hm, hname⟩ := List.mem_map.mp hmem
    exact List.find?_eq_none.mp h m hm (beq_iff_eq.mpr hname)

variable {s t kept : String} {m : MappedType}

theorem ofName_eq_iff_of_builtin (hm : m ∈ builtins) :
    ofName s = m ↔ Text.onString Text.lower s = m.name := by
  rcases ofName_cases s with ⟨m', hm', hname, h⟩ | ⟨hnot, h⟩
  · rw [h, ← hname]
    exact ⟨fun heq => heq ▸ rfl, name_inj_of_builtin hm' hm⟩
  · rw [h]
    refine iff_of_false ?_ fun hname => hnot (hname ▸ List.mem_map_of_mem hm)
    rintro rfl
    exact custom_not_mem_builtins s hm

theorem ofName_eq_custom_iff : ofName s = .custom kept ↔
    kept = s ∧ Text.onString Text.lower s ∉ builtinNames := by
  rcases ofName_cases s with ⟨m, hm, hname, h⟩ | ⟨hnot, h⟩
  · rw [h]
    refine iff_of_false ?_ fun hcustom => hcustom.2 (hname ▸ List.mem_map_of_mem hm)
    rintro rfl
    exact custom_not_mem_builtins kept hm
  · rw [h, custom.injEq, and_iff_left hnot, eq_comm]

theorem ofName_eq_ofName_iff : ofName s = ofName t ↔ s = t ∨
    Text.onString Text.lower s = Text.onString Text.lower t ∧
      Text.onString Text.lower s ∈ builtinNames := by
  rcases ofName_cases t with ⟨m, hm, hname, h⟩ | ⟨hnot, h⟩
  · rw [h, ofName_eq_iff_of_builtin hm, hname]
    refine ⟨fun hlower => .inr ⟨hlower, ?_⟩, ?_⟩
    · rw [hlower, ← hname]
      exact List.mem_map_of_mem hm
    · rintro (rfl | ⟨hlower, -⟩)
      · rfl
      · exact hlower
  · rw [h, ofName_eq_custom_iff, eq_comm (a := t)]
    refine ⟨fun hkept => .inl hkept.1, ?_⟩
    rintro (rfl | ⟨hlower, hmem⟩)
    · exact ⟨rfl, hnot⟩
    · exact absurd (hlower ▸ hmem) hnot

/-- **What texts name.** A type that was named is named by its own name. A text keeps its spelling
where it is no built-in name in lower case, and two texts name one type if and only if they are
the same or have one built-in name for their lower case. The name written into a tag stands for a
type with the same native type under the standard converter, whatever raw types it knows. -/
theorem ofName_spellings (s : String) :
    ofName (ofName s).name = ofName s ∧
    (∀ kept, ofName s = .custom kept ↔ kept = s ∧ Text.onString Text.lower s ∉ builtinNames) ∧
    (∀ t, ofName s = ofName t ↔ s = t ∨
      Text.onString Text.lower s = Text.onString Text.lower t ∧
        Text.onString Text.lower s ∈ builtinNames) ∧
    ∀ table : TypeTable, (Converter.ofTable table).nativeType (ofName (ofName s).tagName) =
      (Converter.ofTable table).nativeType (ofName s) := by
  refine ⟨?name, fun _ => ofName_eq_custom_iff, fun _ => ofName_eq_ofName_iff, fun _ => ?native⟩
  case name =>
    rcases ofName_cases s with ⟨m, hm, -, h⟩ | ⟨-, h⟩
    · rw [h, ofName_name_of_builtin hm]
    · rw [h, name, h]
  case native =>
    refine congrArg Except.ok ?_
    rcases ofName_cases s with ⟨m, hm, -, h⟩ | ⟨-, h⟩
    · rw [h, native_ofName_tagName_of_builtin hm]
    · rw [h, tagName, name, h]
      exact fun hcustom => MappedType.noConfusion hcustom

end AnnotatedEntity.MappedType
