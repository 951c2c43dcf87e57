/-
What a stored default becomes in the source. A decimal literal in a column for fractions is given a
point and keeps its value, unless it has an exponent and no point yet: then the point comes behind
the exponent, and what is written is no literal any more (`literal_decimal_iff`). And for the types
that take a default as it is, one that is empty is written as an initializer with nothing in it
(`initializer_empty_iff`).
-/
import AnnotatedEntity.Proofs.DocBlock
import AnnotatedEntity.Proofs.Text.DecimalLiteral

namespace AnnotatedEntity

/-! ## Decimal literals -/

namespace NativeType

/-- A number with a point is kept as it is. -/
theorem literal_float (l : DecimalLiteral) : float.literal (some l.text) =
    String.ofList (if l.fraction.isSome then l.chars else l.chars ++ ['.', '0']) := by
  have hpoint : l.chars.contains '.' = l.fraction.isSome := by
    rw [Bool.eq_iff_iff, List.contains_iff_mem, DecimalLiteral.mem_point_iff]
  rw [literal, Option.getD_some, DecimalLiteral.text, String.toList_ofList, hpoint]
  split
  · rfl
  · rw [String.ofList_append]

/-- **Decimal literals in a column for fractions.** What is written for one is a decimal literal if
and only if it had a point already or has no exponent, and then it has a point or an exponent, and
it denotes the same number. -/
theorem literal_decimal_iff (l : DecimalLiteral) :
    let written := float.literal (some l.text)
    ((∃ read : DecimalLiteral, read.text = written) ↔
      l.fraction.isSome = true ∨ l.exponent = none) ∧
    ∀ read : DecimalLiteral, read.text = written →
      (read.fraction.isSome = true ∨ read.exponent.isSome = true) ∧ read.value = l.value ∧
        (l.PointClosed → read.PointClosed) := by
  intro written
  have hwritten : written = _ := literal_float l
  cases hf : l.fraction with
  | some digits =>
    rw [hf, Option.isSome_some, if_pos rfl, ← DecimalLiteral.text] at hwritten
    rw [hwritten]
    refine ⟨iff_of_true ⟨l, rfl⟩ (.inl rfl), fun read hread => ?_⟩
    obtain rfl := DecimalLiteral.text_injective hread
    exact ⟨.inl (by rw [hf]; rfl), rfl, id⟩
  | none =>
    rw [hf, Option.isSome_none, if_neg Bool.false_ne_true] at hwritten
    cases hx : l.exponent with
    | none =>
      rw [← DecimalLiteral.chars_withZero hf hx, ← DecimalLiteral.text] at hwritten
      rw [hwritten]
      refine ⟨iff_of_true ⟨l.withZero, rfl⟩ (.inr rfl), fun read hread => ?_⟩
      obtain rfl := DecimalLiteral.text_injective hread
      exact ⟨.inl rfl, DecimalLiteral.value_withZero hf, fun _ => l.pointClosed_withZero⟩
    | some e =>
      have hnone : ∀ read : DecimalLiteral, read.text ≠ written := fun read hread =>
        DecimalLiteral.chars_ne_append_zero hx (String.ofList_injective (hread.trans hwritten))
      refine ⟨iff_of_false (fun ⟨read, hread⟩ => hnone read hread) (by simp), fun read hread => ?_⟩
      exact absurd hread (hnone read)

/-- A thousand, with an exponent. -/
def thousand : DecimalLiteral where
  sign := .absent
  whole := ⟨['1'], List.forall_mem_singleton.mpr rfl⟩
  fraction := none
  exponent := some ⟨'e', .absent, ⟨['3'], List.forall_mem_singleton.mpr rfl⟩, .inl rfl, by decide⟩
  nonempty := .inl (by decide)

example : thousand.text = "1e3" ∧ float.literal (some thousand.text) = "1e3.0" := by decide

/-- A number that is written with an exponent and without a point does not stay a number. -/
theorem literal_thousand : ¬ ∀ l : DecimalLiteral, ∃ read : DecimalLiteral,
    read.text = float.literal (some l.text) ∧
      (read.fraction.isSome = true ∨ read.exponent.isSome = true) ∧ read.value = l.value := by
  intro h
  obtain ⟨read, hread, -⟩ := h thousand
  rw [literal_float] at hread
  exact DecimalLiteral.chars_ne_append_zero (l := thousand) rfl (String.ofList_injective hread)

end NativeType

/-! ## Empty initializers -/

/-- Between apostrophes there is nothing in these texts alone. -/
theorem unquote_eq_nil_iff {s : List Char} :
    unquote s = [] ↔ s = [] ∨ s = ['\x27'] ∨ s = ['\x27', '\x27'] := by
  match s with
  | [] => simp [unquote]
  | [c] => by_cases hc : c = '\x27' <;> simp [unquote, hc]
  | [c, d] => by_cases hc : c = '\x27' <;> by_cases hd : d = '\x27' <;> simp [unquote, hc, hd]
  | c :: d :: e :: rest =>
    rw [unquote]
    split <;> simp

/-- The stored defaults of which no literal is left. -/
def NativeType.emptyDefaults : NativeType → List String
  | .boolean | .float => []
  | .array => ["", "\x27", "\x27\x27"]
  | _ => [""]

theorem NativeType.literal_eq_empty_iff (held : NativeType) (stored : String) :
    held.literal (some stored) = "" ↔ stored ∈ held.emptyDefaults := by
  cases held with
  | boolean =>
    simp only [literal, emptyDefaults, List.not_mem_nil, iff_false]
    split <;> simp
  | float =>
    simp only [literal, Option.getD_some, emptyDefaults, List.not_mem_nil, iff_false]
    split
    · next h =>
      rintro rfl
      simp at h
    · simp
  | array =>
    simp only [literal, Option.getD_some, emptyDefaults]
    have htext : ∀ s : String, stored = s ↔ stored.toList = s.toList := fun s =>
      String.toList_inj.symm
    rw [← String.toList_eq_nil_iff, String.toList_ofList, unquote_eq_nil_iff]
    simp only [List.mem_cons, List.not_mem_nil, or_false, htext]
    rfl
  | string | integer | object | ofClass => simp [literal, emptyDefaults]

namespace Column

variable {ctx : RenderContext} {c : Column} {edits : List Edit}

/-- **When an initializer is empty.** The line of a property has an initializer if and only if a
default is stored. There is nothing between the sign and the semicolon exactly for an empty default
and, in a column for lists, for one apostrophe or two; and never in a column for flags or
fractions. -/
theorem initializer_empty_iff (hc : c.isIgnored = false)
    (h : (c.declaration ctx).result = .ok edits) :
    ∃ held above, ctx.converter.columnType c = .ok held ∧
      (c.storedDefault = none →
        ctx.blockOf (.declare c) = above ++ ["protected $" ++ c.name ++ ";", ""]) ∧
      ∀ stored, c.storedDefault = some stored → ∃ literal,
        ctx.blockOf (.declare c) =
          above ++ ["protected $" ++ c.name ++ " = " ++ literal ++ ";", ""] ∧
        (literal = "" ↔ stored ∈ held.emptyDefaults) := by
  obtain ⟨held, hheld⟩ := columnType_of_declaration hc h
  obtain ⟨as, has⟩ := attributes_of_ok hheld
  have hblock : ctx.blockOf (.declare c) =
      "/**" :: c.docBlock ctx as ++ [" */"] ++ [c.propertyLine held, ""] := by
    rw [RenderContext.blockOf_declare_eq hc hheld has, List.append_assoc, List.singleton_append]
  refine ⟨held, "/**" :: c.docBlock ctx as ++ [" */"], hheld, fun hnone => ?_,
    fun stored hstored => ⟨held.literal (some stored), ?_, held.literal_eq_empty_iff stored⟩⟩
  · rw [hblock, propertyLine, initializer, hnone, String.append_empty]
  · rw [hblock, propertyLine, initializer, hstored, ← String.append_assoc]

/-- A column for lists, whose default is stored between apostrophes. -/
def roles : Column where
  name := "roles"
  rawType := "JSON"
  storedDefault := some "\x27[]\x27"

theorem initializer_empty_roles :
    (∃ edits, (roles.declaration (.ofTable default (.ofOptions {}) {})).result = .ok edits) ∧
    ∃ above literal, (RenderContext.ofTable default (.ofOptions {}) {}).blockOf (.declare roles) =
      above ++ ["protected $roles = " ++ literal ++ ";", ""] ∧ literal ≠ "" := by
  have hdeclared : ∃ edits, (roles.declaration (.ofTable default (.ofOptions {}) {})).result =
      .ok edits := ⟨_, rfl⟩
  obtain ⟨edits, hedits⟩ := hdeclared
  obtain ⟨held, above, hheld, -, hstored⟩ := initializer_empty_iff (by decide) hedits
  obtain ⟨literal, hblock, hempty⟩ := hstored _ rfl
  have harray : (Converter.ofOptions {}).columnType roles = .ok .array := by decide +kernel
  obtain rfl := Except.ok.inj (harray.symm.trans hheld)
  exact ⟨⟨edits, hedits⟩, above, literal, hblock, fun h => absurd (hempty.mp h) (by decide)⟩

/-- A column for texts, whose default is the empty one. -/
def title : Column where
  name := "title"
  rawType := "VARCHAR"
  storedDefault := some ""

/-- A default that is stored but empty leaves the sign and nothing behind it. -/
theorem initializer_of_title : ¬ ∀ (ctx : RenderContext) (c : Column) (edits : List Edit)
    (above : List String) (literal : String),
    c.isIgnored = false → (c.declaration ctx).result = .ok edits → c.storedDefault.isSome = true →
    ctx.blockOf (.declare c) =
      above ++ ["protected $" ++ c.name ++ " = " ++ literal ++ ";", ""] → literal ≠ "" := by
  intro h
  have hblock : (RenderContext.ofTable default (.ofOptions {}) {}).blockOf (.declare title) =
      ["/**", " * @ORM\\Column(type=\"string\")", " */"] ++
        ["protected $title = " ++ "" ++ ";", ""] := by decide +kernel
  exact h _ title _ _ "" (by decide) rfl (by decide) hblock rfl

end Column

end AnnotatedEntity
