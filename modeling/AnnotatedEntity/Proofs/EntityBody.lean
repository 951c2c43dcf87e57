/-
The body of an entity against the blocks of its columns. Either all columns that are not ignored
have their types, and then the body is their properties and behind them their accessors, block by
block in the order of the table; or the first column that has none ends the work with its error,
and the log has told of the columns before it. Ignored columns leave no trace
(`entityBody_blocks`).
-/
import AnnotatedEntity.Proofs.ColumnSource
import AnnotatedEntity.Rendering.Entity

namespace AnnotatedEntity

/-! ## The first failure in a list -/

/-- A list up to the first element on which a function fails, with the results before it. -/
theorem exists_first_error {α β ε : Type} (f : α → Except ε β) : ∀ l : List α,
    ∃ (done : List (α × β)) (rest : List α), l = done.map (·.1) ++ rest ∧
      (∀ p ∈ done, f p.1 = .ok p.2) ∧
      (rest = [] ∨ ∃ a after e, rest = a :: after ∧ f a = .error e)
  | [] => ⟨[], [], rfl, by simp, .inl rfl⟩
  | a :: l => by
    match h : f a with
    | .error e => exact ⟨[], a :: l, rfl, by simp, .inr ⟨a, l, e, rfl, h⟩⟩
    | .ok b =>
      obtain ⟨done, rest, rfl, hdone, hrest⟩ := exists_first_error f l
      exact ⟨(a, b) :: done, rest, rfl, List.forall_mem_cons.mpr ⟨h, hdone⟩, hrest⟩

/-! ## Columns one after the other -/

variable {ctx : RenderContext}

/-- The column is not ignored and has a native type. -/
def Column.Typed (ctx : RenderContext) (c : Column) : Prop :=
  c.isIgnored = false ∧ ∃ held, ctx.converter.columnType c = .ok held

theorem columnEdits_of_typed : ∀ {columns : List Column}, (∀ c ∈ columns, c.Typed ctx) →
    ∃ declarations accessors,
      columnEdits ctx columns =
        ⟨columns.map Column.accessorMessage, .ok (declarations, accessors)⟩ ∧
      Edit.writtenAll ctx.options.indentation 0 declarations =
        columns.flatMap (fun c => ctx.blockOf (.declare c)) ∧
      Edit.writtenAll ctx.options.indentation 0 accessors =
        columns.flatMap fun c => ctx.blockOf (.access c)
  | [], _ => ⟨[], [], rfl, rfl, rfl⟩
  | c :: rest, h => by
    obtain ⟨⟨hc, held, hheld⟩, hrest⟩ := List.forall_mem_cons.mp h
    obtain ⟨as, has, hd⟩ := Column.declaration_of_ok hc hheld
    obtain ⟨declarations, accessors, heq, hds, has'⟩ := columnEdits_of_typed hrest
    refine ⟨c.declarationEdits ctx held as ++ declarations, c.accessorEdits ctx held ++ accessors,
      ?_, ?_, ?_⟩
    · rw [columnEdits, hd, Attempt.done_bind, Column.accessors_of_ok hc hheld,
        Attempt.bind_of_ok _ rfl, heq, Attempt.bind_of_ok _ rfl]
      simp [Attempt.done]
    · rw [Edit.writtenAll_append (Column.level_declarationEdits as), hds, List.flatMap_cons,
        RenderContext.blockOf_declare hc hheld has]
    · rw [Edit.writtenAll_append Column.level_accessorEdits, has', List.flatMap_cons,
        RenderContext.blockOf_access hc hheld]

/-- The first column without a type ends the work. Those before it have been told of. -/
theorem columnEdits_of_error {c : Column} {e : ConvertError} (after : List Column)
    (hc : c.isIgnored = false) (he : ctx.converter.columnType c = .error e) :
    ∀ {before : List Column}, (∀ b ∈ before, b.Typed ctx) →
      columnEdits ctx (before ++ c :: after) = ⟨before.map Column.accessorMessage, .error e⟩
  | [], _ => by
    rw [List.nil_append, columnEdits, Column.declaration_of_error hc he,
      Attempt.bind_of_error _ rfl]
    rfl
  | b :: before, h => by
    obtain ⟨⟨hb, held, hheld⟩, hbefore⟩ := List.forall_mem_cons.mp h
    obtain ⟨as, -, hd⟩ := Column.declaration_of_ok hb hheld
    rw [List.cons_append, columnEdits, hd, Attempt.done_bind, Column.accessors_of_ok hb hheld,
      Attempt.bind_of_ok _ rfl, columnEdits_of_error after hc he hbefore,
      Attempt.bind_of_error _ rfl]
    rfl

/-! ## The body -/

namespace Table

variable {t : Table}

/-- The lines of a body: the properties of all columns that are not ignored, then their
accessors. -/
def bodyLines (ctx : RenderContext) (t : Table) : List String :=
  t.rendered.flatMap (fun c => ctx.blockOf (.declare c)) ++
    t.rendered.flatMap fun c => ctx.blockOf (.access c)

theorem mem_rendered_iff {c : Column} : c ∈ t.rendered ↔ c ∈ t.columns ∧ c.isIgnored = false := by
  simp [rendered]

theorem rendered_eq_nil_iff : t.rendered = [] ↔ ∀ c ∈ t.columns, c.isIgnored = true := by
  simp [rendered]

theorem bodyLines_eq_nil_iff (h : ∀ c ∈ t.rendered, c.Typed ctx) :
    t.bodyLines ctx = [] ↔ t.rendered = [] := by
  refine ⟨fun hnil => List.eq_nil_iff_forall_not_mem.mpr fun c hc => ?_, fun hnil => ?_⟩
  · obtain ⟨hi, held, hheld⟩ := h c hc
    obtain ⟨lines, hlines⟩ := RenderContext.blockOf_declare_eq_cons hi hheld
    simp only [bodyLines, List.append_eq_nil_iff, List.flatMap_eq_nil_iff] at hnil
    exact List.cons_ne_nil _ _ (hlines.symm.trans (hnil.1 c hc))
  · simp [bodyLines, hnil]

/-- A body is never a single empty line, so that no line of it is lost in the text. -/
theorem bodyLines_ne_empty_line (h : ∀ c ∈ t.rendered, c.Typed ctx) : t.bodyLines ctx ≠ [""] := by
  unfold bodyLines
  match hr : t.rendered with
  | [] => simp
  | c :: rest =>
    obtain ⟨hi, held, hheld⟩ := h c (by simp [hr])
    obtain ⟨lines, hlines⟩ := RenderContext.blockOf_declare_eq_cons hi hheld
    simp [hlines]

theorem entityBody_of_typed (h : ∀ c ∈ t.rendered, c.Typed ctx) : t.entityBody ctx =
    ⟨t.rendered.map Column.accessorMessage, .ok (CodeBuffer.ended (t.bodyLines ctx))⟩ := by
  obtain ⟨declarations, accessors, heq, hds, has⟩ := columnEdits_of_typed h
  rw [entityBody, heq, Attempt.bind_of_ok _ rfl]
  simp only [CodeBuffer.lines_applyAll_ofIndentation, hds, has, Attempt.pure_eq_done, Attempt.done,
    List.append_nil]
  have hlines : ((CodeBuffer.ofIndentation ctx.options.indentation).applyAll
      [.splice (t.rendered.flatMap fun c => ctx.blockOf (.declare c)),
       .splice (t.rendered.flatMap fun c => ctx.blockOf (.access c))]).lines = t.bodyLines ctx := by
    simp [Edit.writtenAll, Edit.written, Edit.depthAfter, bodyLines]
  rw [CodeBuffer.text_of_ne (by rw [hlines]; exact bodyLines_ne_empty_line h), hlines]

theorem entityBody_of_error {before after : List Column} {c : Column} {e : ConvertError}
    (ht : t.rendered = before ++ c :: after) (hb : ∀ b ∈ before, b.Typed ctx)
    (hc : c.isIgnored = false) (he : ctx.converter.columnType c = .error e) :
    t.entityBody ctx = ⟨before.map Column.accessorMessage, .error e⟩ := by
  rw [entityBody, ht, columnEdits_of_error after hc he hb, Attempt.bind_of_error _ rfl]

/-- Either all columns that are not ignored have types, or there is a first one that has none. -/
theorem typed_or_first_error (ctx : RenderContext) (t : Table) :
    (∀ c ∈ t.rendered, c.Typed ctx) ∨
      ∃ before c after e, t.rendered = before ++ c :: after ∧ (∀ b ∈ before, b.Typed ctx) ∧
        c.isIgnored = false ∧ ctx.converter.columnType c = .error e := by
  have hi : ∀ c ∈ t.rendered, c.isIgnored = false := fun c hc => (mem_rendered_iff.mp hc).2
  obtain ⟨done, rest, ht, hdone, hrest⟩ := exists_first_error ctx.converter.columnType t.rendered
  have hbefore : ∀ b ∈ done.map (·.1), b.Typed ctx := fun b hb => by
    obtain ⟨p, hp, rfl⟩ := List.mem_map.mp hb
    exact ⟨hi _ (by rw [ht]; exact List.mem_append_left _ hb), p.2, hdone p hp⟩
  rcases hrest with rfl | ⟨c, after, e, rfl, he⟩
  · rw [ht, List.append_nil]
    exact .inl hbefore
  · exact .inr ⟨_, c, after, e, ht, hbefore, hi c (by simp [ht]), he⟩

theorem typed_of_ok {body : String} (h : (t.entityBody ctx).result = .ok body) :
    ∀ c ∈ t.rendered, c.Typed ctx := by
  rcases typed_or_first_error ctx t with htyped | ⟨_, _, _, _, ht, hb, hc, he⟩
  · exact htyped
  · rw [entityBody_of_error ht hb hc he] at h
    cases h

theorem eq_ended_of_ok {body : String} (h : (t.entityBody ctx).result = .ok body) :
    body = CodeBuffer.ended (t.bodyLines ctx) := by
  rw [entityBody_of_typed (typed_of_ok h)] at h
  exact (Except.ok.inj h).symm

theorem typed_iff {c : Column} : c.Typed ctx ↔ c.isIgnored = false ∧ ∃ mapped held,
    ctx.converter.mappedType c = .ok mapped ∧ ctx.converter.nativeType mapped = .ok held := by
  simp only [Column.Typed, Converter.columnType_eq_ok_iff]
  exact and_congr_right fun _ => exists_comm

theorem rendered_insert {front ignored back : List Column} (ht : t.columns = front ++ back)
    (hi : ∀ c ∈ ignored, c.isIgnored = true) :
    rendered { t with columns := front ++ ignored ++ back } = t.rendered := by
  have hnone : ignored.filter (!·.isIgnored) = [] := by simpa using hi
  simp [rendered, ht, hnone]

theorem entityBody_congr {t' : Table} (h : t'.rendered = t.rendered) :
    t'.entityBody ctx = t.entityBody ctx := by
  rw [entityBody, h, entityBody]

/-- **The body of an entity.** It is there if and only if every column that is not ignored has a
mapped type and then a native one. It is the blocks of these columns, properties before accessors,
and empty only without such columns. Otherwise the error is that of the first column that fails.
The log tells of the accessors of the columns before that one, or of all. Columns that are ignored
can be put in and taken out anywhere. -/
theorem entityBody_blocks (ctx : RenderContext) (t : Table) :
    ((∃ body, (t.entityBody ctx).result = .ok body) ↔
      ∀ c ∈ t.columns, c.isIgnored = false → ∃ mapped held,
        ctx.converter.mappedType c = .ok mapped ∧ ctx.converter.nativeType mapped = .ok held) ∧
    (∀ body, (t.entityBody ctx).result = .ok body →
      body = CodeBuffer.ended (t.bodyLines ctx) ∧
      (body = "" ↔ ∀ c ∈ t.columns, c.isIgnored = true) ∧
      (t.entityBody ctx).log = t.rendered.map Column.accessorMessage) ∧
    (∀ e, (t.entityBody ctx).result = .error e →
      ∃ before c after, t.rendered = before ++ c :: after ∧
        (∀ b ∈ before, ∃ mapped held, ctx.converter.mappedType b = .ok mapped ∧
          ctx.converter.nativeType mapped = .ok held) ∧
        (ctx.converter.mappedType c = .error e ∨
          ∃ mapped, ctx.converter.mappedType c = .ok mapped ∧
            ctx.converter.nativeType mapped = .error e) ∧
        (t.entityBody ctx).log = before.map Column.accessorMessage) ∧
    ∀ front ignored back, t.columns = front ++ back → (∀ c ∈ ignored, c.isIgnored = true) →
      entityBody ctx { t with columns := front ++ ignored ++ back } = t.entityBody ctx := by
  have hinsert : ∀ front ignored back, t.columns = front ++ back →
      (∀ c ∈ ignored, c.isIgnored = true) →
      entityBody ctx { t with columns := front ++ ignored ++ back } = t.entityBody ctx :=
    fun _ _ _ ht hi => entityBody_congr (rendered_insert ht hi)
  rcases typed_or_first_error ctx t with h | ⟨before, c, after, e, ht, hb, hc, he⟩
  · have hbody := entityBody_of_typed h
    refine ⟨⟨fun _ c hc hi => (typed_iff.mp (h c (mem_rendered_iff.mpr ⟨hc, hi⟩))).2,
      fun _ => ⟨_, by rw [hbody]⟩⟩, fun body hok => ?_, fun e herr => ?_, hinsert⟩
    · rw [hbody] at hok ⊢
      obtain rfl := Except.ok.inj hok
      refine ⟨rfl, ?_, rfl⟩
      rw [CodeBuffer.ended_eq_empty_iff, bodyLines_eq_nil_iff h, rendered_eq_nil_iff]
    · rw [hbody] at herr
      cases herr
  · have hbody := entityBody_of_error ht hb hc he
    refine ⟨⟨fun ⟨_, hok⟩ => ?_, fun hall => ?_⟩, fun body hok => ?_, fun e' herr => ?_, hinsert⟩
    · rw [hbody] at hok
      cases hok
    · have hmem : c ∈ t.rendered := by simp [ht]
      obtain ⟨mapped, held, hm, hn⟩ := hall c (mem_rendered_iff.mp hmem).1 hc
      rw [Converter.columnType_eq_ok_iff.mpr ⟨mapped, hm, hn⟩] at he
      cases he
    · rw [hbody] at hok
      cases hok
    · rw [hbody] at herr ⊢
      obtain rfl := Except.error.inj herr
      exact ⟨before, c, after, ht, fun b hb' => (typed_iff.mp (hb b hb')).2,
        Converter.columnType_eq_error_iff.mp he, rfl⟩

end Table

end AnnotatedEntity
