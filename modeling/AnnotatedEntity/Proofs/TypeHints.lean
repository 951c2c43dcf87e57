/-
Type hints. Of all the lines of an entity's body, what is asked of type hints reaches one line of
each setter, which is its signature (`blockOf_access_withHints`). With the standard converter dates
are the only columns that are carried as a class, and the class of dates is known whatever classes
the options add, so that these make no difference and a hint stands before the parameters that hold
dates (`entityBody_typehints`).
-/
import AnnotatedEntity.Proofs.Run

namespace AnnotatedEntity

/-! ## One column -/

namespace RenderContext

/-- The context with other wishes for type hints: whether they are written, and which classes are
known beside the built-in ones. -/
def withHints (ctx : RenderContext) (wanted : Bool) (extras : List String) : RenderContext where
  table := ctx.table
  converter := ctx.converter
  options := { ctx.options with propertyTypehint := wanted, typehintClasses := extras }
  classes := .ofExtras extras

end RenderContext

namespace Column

variable {ctx : RenderContext} {c : Column} {held : NativeType} {wanted : Bool}
  {extras : List String}

/-- The signature of a setter with a hint before its parameter. -/
def setterSignature (hint : String) (c : Column) : String :=
  "public function set" ++ c.methodSuffix ++ "(" ++ hint ++ "$" ++ c.name
    ++ (if c.nullable then " = null" else "") ++ ")"

/-- The lines of a setter above its signature, whatever hints are written. -/
def setterAbove (ctx : RenderContext) (c : Column) (held : NativeType) : List String :=
  Edit.writtenAll ctx.options.indentation 0 ((c.setterEdits ctx held).take 7)

/-- The lines of a setter below its signature. -/
def setterBelow (ctx : RenderContext) (c : Column) (held : NativeType) : List String :=
  Edit.writtenAll ctx.options.indentation 0 ((c.setterEdits ctx held).drop 8)

theorem setterLines_eq : c.setterLines ctx held =
    c.setterAbove ctx held ++ c.setterSignature (typehint ctx held) :: c.setterBelow ctx held := by
  have hedits : c.setterEdits ctx held = (c.setterEdits ctx held).take 7 ++
      .write (c.setterSignature (typehint ctx held)) :: (c.setterEdits ctx held).drop 8 := rfl
  have hlevel : Edit.Level ((c.setterEdits ctx held).take 7) := fun _ => rfl
  rw [setterLines, hedits, Edit.writtenAll_append hlevel, Edit.writtenAll, Edit.written,
    CodeBuffer.indented_zero]
  rfl

theorem setterAbove_withHints :
    c.setterAbove (ctx.withHints wanted extras) held = c.setterAbove ctx held := by
  simp only [setterAbove, setterEdits, List.take_succ_cons, List.take_zero,
    RenderContext.withHints]

theorem setterBelow_withHints :
    c.setterBelow (ctx.withHints wanted extras) held = c.setterBelow ctx held := by
  simp only [setterBelow, setterEdits, List.drop_succ_cons, List.drop_zero,
    RenderContext.withHints]

end Column

namespace RenderContext

variable {ctx : RenderContext} {c : Column} {held : NativeType}

/-- A property has no hints. -/
theorem blockOf_declare_withHints (ctx : RenderContext) (c : Column) (wanted : Bool)
    (extras : List String) :
    (ctx.withHints wanted extras).blockOf (.declare c) = ctx.blockOf (.declare c) :=
  rfl

theorem blockOf_access_withHints_of_id (hc : c.isIgnored = false)
    (h : ctx.converter.columnType c = .ok held) (hid : c.name = "id") (wanted : Bool)
    (extras : List String) :
    (ctx.withHints wanted extras).blockOf (.access c) = ctx.blockOf (.access c) := by
  have hother : (ctx.withHints wanted extras).converter.columnType c = .ok held := h
  rw [blockOf_access_eq hc h, blockOf_access_eq hc hother, if_pos hid, if_pos hid]
  rfl

/-- **What type hints reach**: with other wishes for them the accessors of a column that has a
setter are the same but for the signature of that setter. -/
theorem blockOf_access_withHints (hc : c.isIgnored = false)
    (h : ctx.converter.columnType c = .ok held) (hid : c.name ≠ "id") :
    ∃ front back, ∀ wanted extras, (ctx.withHints wanted extras).blockOf (.access c) =
      front ++ c.setterSignature (Column.typehint (ctx.withHints wanted extras) held) :: back := by
  refine ⟨"" :: c.setterAbove ctx held, c.setterBelow ctx held ++ c.getterLines ctx held,
    fun wanted extras => ?_⟩
  have hother : (ctx.withHints wanted extras).converter.columnType c = .ok held := h
  rw [blockOf_access_eq hc hother, if_neg hid, Column.setterLines_eq,
    Column.setterAbove_withHints, Column.setterBelow_withHints]
  simp only [List.cons_append, List.append_assoc]
  rfl

end RenderContext

/-! ## Dates under the standard converter -/

/-- The mapped types of dates and times. -/
def MappedType.isMoment : MappedType → Bool
  | date | time | dateTime | dateTimeTz => true
  | _ => false

/-- Dates are carried as a class that is always known, and all else is carried as none. -/
theorem ClassRegistry.knows_native (extras : List String) (mapped : MappedType) :
    (ofExtras extras).knows mapped.native = mapped.isMoment := by
  cases mapped
  case date | time | dateTime | dateTimeTz =>
    have hknown : "\\DateTime" ∈ ofExtras extras := List.mem_append_left _ (by decide)
    have hname : qualified "\\DateTime" = "\\DateTime" := by decide
    simpa [knows, MappedType.native, MappedType.isMoment, hname] using hknown
  all_goals rfl

theorem Column.typehint_native (ctx : RenderContext) (wanted : Bool) (extras : List String)
    (mapped : MappedType) : typehint (ctx.withHints wanted extras) mapped.native =
      if wanted && mapped.isMoment then "\\DateTime " else "" := by
  simp only [typehint, RenderContext.withHints, ClassRegistry.knows_native]
  cases mapped <;> cases wanted <;> rfl

/-- The column is mapped to a date or a time. -/
def Column.HoldsMoment (o : Options) (c : Column) : Prop :=
  ∃ mapped, (Converter.ofOptions o).mappedType c = .ok mapped ∧ mapped.isMoment = true

theorem Converter.columnType_ofOptions_ok {o : Options} {c : Column} {held : NativeType} :
    (ofOptions o).columnType c = .ok held ↔
      ∃ mapped, (ofOptions o).mappedType c = .ok mapped ∧ mapped.native = held := by
  simp only [columnType_eq_ok_iff, ofOptions, ofTable, Except.ok.injEq]

namespace RenderContext

variable {o : Options} {t : Table} {c : Column}

/-- Under the standard converter a setter's signature has a hint if hints are wanted and the column
holds a date, and nothing else of the accessors depends on what is wanted. -/
theorem blockOf_access_standard (h : c.Typed (standard o t)) (hid : c.name ≠ "id") :
    ∃ mapped front back, (Converter.ofOptions o).mappedType c = .ok mapped ∧
      ∀ wanted extras, ((standard o t).withHints wanted extras).blockOf (.access c) =
        front ++ c.setterSignature (if wanted && mapped.isMoment then "\\DateTime " else "") ::
          back := by
  obtain ⟨hc, held, hheld⟩ := h
  obtain ⟨mapped, hmapped, rfl⟩ := Converter.columnType_ofOptions_ok.mp hheld
  obtain ⟨front, back, hblock⟩ := blockOf_access_withHints hc hheld hid
  refine ⟨mapped, front, back, hmapped, fun wanted extras => ?_⟩
  rw [hblock, Column.typehint_native]

/-- Which classes are known beside the built-in ones makes no difference to the accessors. -/
theorem blockOf_access_extras (h : c.Typed (standard o t)) (wanted : Bool)
    (extras others : List String) :
    ((standard o t).withHints wanted extras).blockOf (.access c) =
      ((standard o t).withHints wanted others).blockOf (.access c) := by
  by_cases hid : c.name = "id"
  · obtain ⟨hc, held, hheld⟩ := h
    rw [blockOf_access_withHints_of_id hc hheld hid, blockOf_access_withHints_of_id hc hheld hid]
  · obtain ⟨mapped, front, back, -, hblock⟩ := blockOf_access_standard h hid
    rw [hblock, hblock]

/-- Hints that are wanted change the signature of a setter for dates, and nothing else. -/
theorem blockOf_access_wanted (h : c.Typed (standard o t)) (extras : List String) :
    let bare := (standard o t).withHints false extras
    let hinted := (standard o t).withHints true extras
    (c.name ≠ "id" ∧ c.HoldsMoment o → ∃ front back,
      bare.blockOf (.access c) = front ++ c.setterSignature "" :: back ∧
      hinted.blockOf (.access c) = front ++ c.setterSignature "\\DateTime " :: back) ∧
    (¬ (c.name ≠ "id" ∧ c.HoldsMoment o) →
      hinted.blockOf (.access c) = bare.blockOf (.access c)) := by
  intro bare hinted
  by_cases hid : c.name = "id"
  · obtain ⟨hc, held, hheld⟩ := h
    refine ⟨fun hmoment => absurd hid hmoment.1, fun _ => ?_⟩
    rw [blockOf_access_withHints_of_id hc hheld hid, blockOf_access_withHints_of_id hc hheld hid]
  · obtain ⟨mapped, front, back, hmapped, hblock⟩ := blockOf_access_standard h hid
    have hmoment : c.HoldsMoment o ↔ mapped.isMoment = true :=
      ⟨fun ⟨_, hm, hmoment⟩ => Except.ok.inj (hm.symm.trans hmapped) ▸ hmoment,
        fun hmoment => ⟨mapped, hmapped, hmoment⟩⟩
    rw [hblock, hblock, hmoment, and_iff_right hid]
    refine ⟨fun hm => ⟨front, back, rfl, by rw [hm]; rfl⟩, fun hm => ?_⟩
    rw [Bool.eq_false_iff.mpr hm]
    rfl

end RenderContext

namespace Table

variable {ctx : RenderContext} {o : Options} {t : Table}

/-- Whether a body is there does not depend on the hints. -/
theorem entityBody_withHints_of_typed (h : ∀ c ∈ t.rendered, c.Typed ctx) (wanted : Bool)
    (extras : List String) : t.entityBody (ctx.withHints wanted extras) =
      ⟨t.rendered.map Column.accessorMessage,
        .ok (CodeBuffer.ended (t.bodyLines (ctx.withHints wanted extras)))⟩ :=
  have hother : ∀ c ∈ t.rendered, c.Typed (ctx.withHints wanted extras) := h
  entityBody_of_typed hother

theorem entityBody_withHints_of_error {before after : List Column} {c : Column} {e : ConvertError}
    (ht : t.rendered = before ++ c :: after) (hb : ∀ b ∈ before, b.Typed ctx)
    (hc : c.isIgnored = false) (he : ctx.converter.columnType c = .error e) (wanted : Bool)
    (extras : List String) : t.entityBody (ctx.withHints wanted extras) =
      ⟨before.map Column.accessorMessage, .error e⟩ :=
  have hother : (ctx.withHints wanted extras).converter.columnType c = .error e := he
  entityBody_of_error ht hb hc hother

theorem entityBody_extras (wanted : Bool) (extras others : List String) :
    t.entityBody ((RenderContext.standard o t).withHints wanted extras) =
      t.entityBody ((RenderContext.standard o t).withHints wanted others) := by
  rcases typed_or_first_error (.standard o t) t with h | ⟨before, c, after, e, ht, hb, hc, he⟩
  · have hlines : t.bodyLines ((RenderContext.standard o t).withHints wanted extras) =
        t.bodyLines ((RenderContext.standard o t).withHints wanted others) :=
      congrArg (t.rendered.flatMap _ ++ ·) <| List.flatMap_congr fun c hc =>
        RenderContext.blockOf_access_extras (h c hc) wanted extras others
    rw [entityBody_withHints_of_typed h, entityBody_withHints_of_typed h, hlines]
  · rw [entityBody_withHints_of_error ht hb hc he, entityBody_withHints_of_error ht hb hc he]

/-- **What the options for type hints change** under the standard converter. Classes that they add
change nothing. Hints that they ask for change no log and no error; and of a body they change the
signatures of those setters whose columns hold dates, which then have the class of dates before
their parameter. -/
theorem entityBody_typehints (o : Options) (t : Table) :
    (∀ classes, t.entityBody (.standard { o with typehintClasses := classes } t) =
      t.entityBody (.standard o t)) ∧
    let bare := RenderContext.standard { o with propertyTypehint := false } t
    let hinted := RenderContext.standard { o with propertyTypehint := true } t
    (t.entityBody hinted).log = (t.entityBody bare).log ∧
    ((∃ e, (t.entityBody bare).result = .error e ∧ (t.entityBody hinted).result = .error e) ∨
      (t.entityBody bare).result = .ok (CodeBuffer.ended (t.bodyLines bare)) ∧
      (t.entityBody hinted).result = .ok (CodeBuffer.ended (t.bodyLines hinted)) ∧
      ∀ c ∈ t.rendered,
        hinted.blockOf (.declare c) = bare.blockOf (.declare c) ∧
        (c.name ≠ "id" ∧ c.HoldsMoment o → ∃ front back,
          bare.blockOf (.access c) = front ++ c.setterSignature "" :: back ∧
          hinted.blockOf (.access c) = front ++ c.setterSignature "\\DateTime " :: back) ∧
        (¬ (c.name ≠ "id" ∧ c.HoldsMoment o) →
          hinted.blockOf (.access c) = bare.blockOf (.access c))) := by
  refine ⟨fun classes => entityBody_extras o.propertyTypehint classes o.typehintClasses, ?_⟩
  intro bare hinted
  rcases typed_or_first_error (.standard o t) t with h | ⟨before, c, after, e, ht, hb, hc, he⟩
  · have hbare : t.entityBody bare = _ :=
      entityBody_withHints_of_typed h false o.typehintClasses
    have hhinted : t.entityBody hinted = _ :=
      entityBody_withHints_of_typed h true o.typehintClasses
    rw [hbare, hhinted]
    refine ⟨rfl, .inr ⟨rfl, rfl, fun c hc => ⟨?_, ?_⟩⟩⟩
    · exact (RenderContext.blockOf_declare_withHints (.standard o t) c true _).trans
        (RenderContext.blockOf_declare_withHints (.standard o t) c false _).symm
    · exact RenderContext.blockOf_access_wanted (h c hc) o.typehintClasses
  · have hbare : t.entityBody bare = _ :=
      entityBody_withHints_of_error ht hb hc he false o.typehintClasses
    have hhinted : t.entityBody hinted = _ :=
      entityBody_withHints_of_error ht hb hc he true o.typehintClasses
    rw [hbare, hhinted]
    exact ⟨rfl, .inl ⟨e, rfl, rfl⟩⟩

end Table

end AnnotatedEntity
