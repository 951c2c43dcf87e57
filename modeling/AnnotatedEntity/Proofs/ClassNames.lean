/-
Classes as type hints. A class is looked up by its qualified name, so that it is known with a
backslash in front or without one (`knows_ofClass_iff`). But a hint is written as the converter
spells the class, and so it is the qualified name only where that is how the converter spells it:
two spellings of one class give two signatures (`setterLine_spellings`).
-/
import AnnotatedEntity.Proofs.TypeHints

namespace AnnotatedEntity

variable {name : String}

/-! ## Qualified names -/

/-- The name has a backslash in front. -/
def IsQualified (name : String) : Prop := name.toList.head? = some '\\'

instance (name : String) : Decidable (IsQualified name) :=
  inferInstanceAs (Decidable (name.toList.head? = some '\\'))

theorem qualified_of_isQualified (h : IsQualified name) : qualified name = name := if_pos h

theorem isQualified_qualified (name : String) : IsQualified (qualified name) := by
  rw [qualified]
  split
  · next h => exact h
  · rw [IsQualified, String.toList_append]
    rfl

theorem qualified_eq_self_iff : qualified name = name ↔ IsQualified name :=
  ⟨fun h => h ▸ isQualified_qualified name, qualified_of_isQualified⟩

/-! ## Known classes -/

namespace ClassRegistry

variable {extras others : List String}

theorem knows_ofClass_iff : (ofExtras extras).knows (.ofClass name) = true ↔
    qualified name ∈ builtin ∨ ∃ extra ∈ extras, qualified extra = qualified name := by
  rw [knows, List.contains_iff_mem, ofExtras, List.mem_append, List.mem_map]

/-- Neither the order of the classes that are added matters nor how often each one is. -/
theorem knows_congr (h : ∀ extra, extra ∈ extras ↔ extra ∈ others) :
    (ofExtras extras).knows = (ofExtras others).knows := by
  funext held
  cases held with
  | ofClass name =>
    rw [Bool.eq_iff_iff, knows_ofClass_iff, knows_ofClass_iff]
    simp only [h]
  | string | integer | boolean | float | array | object => rfl

/-- A class is known by all its spellings or by none. -/
theorem knows_qualified (classes : ClassRegistry) (name : String) :
    classes.knows (.ofClass (qualified name)) = classes.knows (.ofClass name) := by
  rw [knows, knows, qualified_of_isQualified (isQualified_qualified name)]

end ClassRegistry

/-! ## The signature of a setter -/

/-- The line begins the signature of a setter. -/
def isSetterLine (line : String) : Bool := "public function set".toList.isPrefixOf line.toList

theorem isSetterLine_eq_false {line : String} (h : line.toList.head? ≠ some 'p') :
    isSetterLine line = false := by
  rw [isSetterLine, Bool.eq_false_iff, ne_eq, List.isPrefixOf_iff_prefix]
  rintro ⟨rest, hrest⟩
  rw [← hrest] at h
  exact h rfl

namespace Column

variable {ctx : RenderContext} {c : Column} {held : NativeType} {hint hint' : String}

theorem toList_setterSignature (hint : String) (c : Column) : (c.setterSignature hint).toList =
    ("public function set" ++ c.methodSuffix ++ "(").toList ++ (hint.toList ++
      ("$" ++ c.name ++ (if c.nullable then " = null" else "") ++ ")").toList) := by
  show ("public function set" ++ c.methodSuffix ++ "(" ++ hint ++ "$" ++ c.name ++
    (if c.nullable then " = null" else "") ++ ")").toList = _
  simp only [String.toList_append, List.append_assoc]

/-- A signature tells its hint. -/
theorem setterSignature_inj : c.setterSignature hint = c.setterSignature hint' ↔ hint = hint' := by
  refine ⟨fun h => ?_, fun h => by rw [h]⟩
  have hchars := congrArg String.toList h
  rw [toList_setterSignature, toList_setterSignature] at hchars
  exact String.toList_injective (List.append_cancel_right (List.append_cancel_left hchars))

theorem isSetterLine_setterSignature : isSetterLine (c.setterSignature hint) = true := by
  rw [isSetterLine, List.isPrefixOf_iff_prefix, toList_setterSignature, String.toList_append,
    String.toList_append, List.append_assoc, List.append_assoc]
  exact List.prefix_append _ _

theorem isSetterLine_setterAbove : ∀ line ∈ c.setterAbove ctx held, isSetterLine line = false := by
  simp only [setterAbove, setterEdits, List.take_succ_cons, List.take_zero, Edit.writtenAll,
    Edit.written, Edit.depthAfter, CodeBuffer.indented_zero, List.singleton_append,
    List.forall_mem_cons]
  refine ⟨?_, ?_, ?_, ?_, ?_, ?_, ?_, by simp⟩ <;> exact isSetterLine_eq_false (by simp)

end Column

namespace RenderContext

variable {ctx : RenderContext} {c : Column} {held : NativeType}

/-- The signature of the setter among a column's accessors. -/
def setterLine? (ctx : RenderContext) (c : Column) : Option String :=
  (ctx.blockOf (.access c)).find? isSetterLine

theorem setterLine?_of_ok (hc : c.isIgnored = false) (h : ctx.converter.columnType c = .ok held)
    (hid : c.name ≠ "id") :
    ctx.setterLine? c = some (c.setterSignature (Column.typehint ctx held)) := by
  have hempty : isSetterLine "" = false := by decide
  have habove : (c.setterAbove ctx held).find? isSetterLine = none :=
    List.find?_eq_none.mpr fun line hline => by
      rw [Column.isSetterLine_setterAbove line hline]
      exact Bool.false_ne_true
  rw [setterLine?, blockOf_access_eq hc h, if_neg hid, Column.setterLines_eq, List.cons_append,
    List.find?_cons_of_neg (by simp [hempty]), List.append_assoc, List.find?_append, habove,
    Option.none_or, List.cons_append, List.find?_cons_of_pos Column.isSetterLine_setterSignature]

/-- The context with another converter, and with type hints for classes that are added. -/
def hinting (ctx : RenderContext) (extras : List String) (conv : Converter) : RenderContext :=
  { ctx.withHints true extras with converter := conv }

variable {extras : List String} {conv : Converter} {name : String}

/-- The hint for a known class is the name that the converter gives. -/
theorem setterLine?_hinting (hc : c.isIgnored = false) (hid : c.name ≠ "id")
    (hknown : (ClassRegistry.ofExtras extras).knows (.ofClass name) = true)
    (h : conv.columnType c = .ok (.ofClass name)) :
    (ctx.hinting extras conv).setterLine? c = some (c.setterSignature (name ++ " ")) := by
  have hhint : Column.typehint (ctx.hinting extras conv) (.ofClass name) = name ++ " " := by
    show (if true && (ClassRegistry.ofExtras extras).knows (.ofClass name) then name ++ " " else "")
      = _
    rw [hknown]
    rfl
  have hheld : (ctx.hinting extras conv).converter.columnType c = .ok (.ofClass name) := h
  rw [setterLine?_of_ok hc hheld hid, hhint]

/-- **Which classes are known, and how they are hinted at.** A class is known if its qualified name
is that of a built-in class or of one that is added, in whatever order and however often these are.
A setter's parameter has the name of a known class as the converter spells it, and so the qualified
name, or what another converter's qualified spelling of the class gives, only if it has a backslash
in front. -/
theorem setterLine_spellings (ctx : RenderContext) (extras : List String) (name : String) :
    ((ClassRegistry.ofExtras extras).knows (.ofClass name) = true ↔
      qualified name ∈ ClassRegistry.builtin ∨
        ∃ extra ∈ extras, qualified extra = qualified name) ∧
    (∀ others, (∀ extra, extra ∈ extras ↔ extra ∈ others) →
      (ClassRegistry.ofExtras extras).knows = (ClassRegistry.ofExtras others).knows) ∧
    ∀ c : Column, c.isIgnored = false → c.name ≠ "id" →
      (ClassRegistry.ofExtras extras).knows (.ofClass name) = true →
      ∀ conv : Converter, conv.columnType c = .ok (.ofClass name) →
        let line := (ctx.hinting extras conv).setterLine? c
        line = some (c.setterSignature (name ++ " ")) ∧
        (line = some (c.setterSignature (qualified name ++ " ")) ↔ IsQualified name) ∧
        ∀ other : Converter, other.columnType c = .ok (.ofClass (qualified name)) →
          (line = (ctx.hinting extras other).setterLine? c ↔ IsQualified name) := by
  refine ⟨ClassRegistry.knows_ofClass_iff, fun others => ClassRegistry.knows_congr, ?_⟩
  intro c hc hid hknown conv h line
  have hline : line = some (c.setterSignature (name ++ " ")) := setterLine?_hinting hc hid hknown h
  have hspelt : line = some (c.setterSignature (qualified name ++ " ")) ↔ IsQualified name := by
    rw [hline, Option.some.injEq, Column.setterSignature_inj, ← qualified_eq_self_iff]
    exact ⟨fun heq => (String.append_left_inj " ").mp heq.symm, fun heq => by rw [heq]⟩
  refine ⟨hline, hspelt, fun other hother => ?_⟩
  rw [setterLine?_hinting hc hid ((ClassRegistry.knows_qualified _ name).trans hknown) hother]
  exact hspelt

/-- A converter that carries every column as one class. -/
def carrying (className : String) : Converter where
  mappedType _ := .ok (.custom "object")
  nativeType _ := .ok (.ofClass className)

/-- A column for amounts of money. -/
def price : Column where
  name := "price"
  rawType := "MONEY"

/-- With a backslash in front of the class and without one the signatures are two. -/
theorem setterLine_spellings_money :
    let ctx := RenderContext.ofTable default (.ofOptions {}) {}
    (ClassRegistry.ofExtras ["Shop\\Money"]).knows (.ofClass "Shop\\Money") = true ∧
    (ctx.hinting ["Shop\\Money"] (carrying "Shop\\Money")).setterLine? price ≠
      (ctx.hinting ["Shop\\Money"] (carrying (qualified "Shop\\Money"))).setterLine? price := by
  intro ctx
  obtain ⟨hknows, -, hlines⟩ := setterLine_spellings ctx ["Shop\\Money"] "Shop\\Money"
  have hknown := hknows.mpr (.inr ⟨_, List.mem_singleton_self _, rfl⟩)
  obtain ⟨-, -, hother⟩ := hlines price rfl (by decide) hknown (carrying "Shop\\Money") rfl
  exact ⟨hknown, fun h => absurd ((hother _ rfl).mp h) (by decide)⟩

/-- A class that is known by its qualified name can be hinted at by a name that is not. -/
theorem setterLine_relative : ¬ ∀ (ctx : RenderContext) (extras : List String) (name : String)
    (c : Column) (conv : Converter), c.isIgnored = false → c.name ≠ "id" →
      (ClassRegistry.ofExtras extras).knows (.ofClass name) = true →
      conv.columnType c = .ok (.ofClass name) →
        (ctx.hinting extras conv).setterLine? c =
          some (c.setterSignature (qualified name ++ " ")) := by
  intro h
  have hline := h (.ofTable default (.ofOptions {}) {}) ["Shop\\Money"] "Shop\\Money" price
    (carrying "Shop\\Money") rfl (by decide) (by decide) rfl
  rw [setterLine?_hinting rfl (by decide) (by decide) rfl, Option.some.injEq,
    Column.setterSignature_inj] at hline
  exact absurd hline (by decide)

end RenderContext

end AnnotatedEntity
