/-
Quoted names. A name that is quoted is another text than before, so that the attribute for it is in
a column's tag if and only if the strategy quotes the column. Nothing else of a body depends on the
strategy: two bodies have their lines in common but for the tags of their columns, and these differ
in that one attribute (`entityBody_quoting`).
-/
import AnnotatedEntity.Proofs.ColumnTag
import AnnotatedEntity.Proofs.EntityBody
import Mathlib.Data.List.Forall2

namespace AnnotatedEntity

/-! ## Which names are quoted -/

namespace QuoteStrategy

/-- The strategy quotes the name: always, never, or if it is a reserved word in whatever case. -/
def Quotes : QuoteStrategy → String → Prop
  | always, _ => True
  | auto, name => Text.onString Text.lower name ∈ reservedWords
  | never, _ => False

instance : ∀ (s : QuoteStrategy) (name : String), Decidable (s.Quotes name)
  | always, _ => isTrue trivial
  | auto, name => inferInstanceAs (Decidable (Text.onString Text.lower name ∈ reservedWords))
  | never, _ => isFalse not_false

theorem quote_eq (s : QuoteStrategy) (name : String) :
    s.quote name = if s.Quotes name then "`" ++ name ++ "`" else name := by
  cases s with
  | always => rfl
  | never => rfl
  | auto =>
    refine if_congr ?_ rfl rfl
    rw [isReservedWord, List.contains_iff_mem]
    rfl

theorem backquoted_ne (name : String) : "`" ++ name ++ "`" ≠ name := fun h => by
  have hquote : "`".length = 1 := rfl
  have hlength := congrArg String.length h
  rw [String.length_append, String.length_append] at hlength
  omega

/-- The attribute for a quoted name. -/
def nameEntry (s : QuoteStrategy) (name : String) : Attributes :=
  if s.Quotes name then [("name", .text ("`" ++ name ++ "`"))] else []

end QuoteStrategy

namespace RenderContext

/-- What a table is rendered with under the options, but with a strategy of its own. -/
def quoting (t : Table) (conv : Converter) (o : Options) (s : QuoteStrategy) : RenderContext :=
  .ofTable t conv { o with quoteStrategy := s }

end RenderContext

/-! ## Columns -/

namespace Column

/-- The attributes for a name stand before those that are the same under all strategies. -/
theorem ofSlots_quoting (t : Table) (conv : Converter) (o : Options) (s : QuoteStrategy)
    (c : Column) (mapped : MappedType) :
    Attributes.ofSlots (c.attributeSlots (.quoting t conv o s) mapped) =
      s.nameEntry c.name ++ .ofSlots (c.otherSlots mapped) := by
  have hquote : (RenderContext.quoting t conv o s).table.quote c.name = s.quote c.name := rfl
  rw [attributeSlots, hquote, QuoteStrategy.nameEntry, QuoteStrategy.quote_eq]
  by_cases h : s.Quotes c.name
  · simp only [if_pos h, if_neg (QuoteStrategy.backquoted_ne c.name)]
    rfl
  · simp only [if_neg h, if_pos]
    rfl

theorem attributes_quoting (t : Table) (conv : Converter) (o : Options) (c : Column) :
    (∃ e, ∀ s, c.attributes (.quoting t conv o s) = .error e) ∨
      ∃ others : Attributes, "name" ∉ others.keys ∧
        ∀ s, c.attributes (.quoting t conv o s) = .ok (s.nameEntry c.name ++ others) := by
  match h : conv.mappedType c with
  | .error e => exact .inl ⟨e, fun _ => attributes_eq_error_iff.mpr h⟩
  | .ok mapped =>
    refine .inr ⟨.ofSlots (c.otherSlots mapped), ?_, fun s => ?_⟩
    · exact Attributes.not_mem_keys_ofSlots (show "name" ∉ attributeNames.tail by decide)
    · have hm : (RenderContext.quoting t conv o s).converter.mappedType c = .ok mapped := h
      rw [attributes_of_mappedType hm, ofSlots_quoting]

end Column

/-! ## Bodies -/

/-- Lines of two bodies at one place: the same line, or the tags of one column of the table. -/
inductive RenderContext.AlikeButTag (ctx ctx' : RenderContext) (t : Table) : String → String → Prop
  | same (line : String) : AlikeButTag ctx ctx' t line line
  | tag {c : Column} {as as' : Attributes} (hc : c ∈ t.rendered) (h : c.attributes ctx = .ok as)
      (h' : c.attributes ctx' = .ok as') :
      AlikeButTag ctx ctx' t (Column.tagLine ctx "Column" (some as))
        (Column.tagLine ctx' "Column" (some as'))

namespace RenderContext

variable {t : Table} {conv : Converter} {o : Options} {c : Column} {held : NativeType}

instance (ctx ctx' : RenderContext) (t : Table) : Std.Refl (AlikeButTag ctx ctx' t) := ⟨.same⟩

/-- The accessors do not depend on the strategy. -/
theorem blockOf_access_quoting (s s' : QuoteStrategy) :
    (quoting t conv o s').blockOf (.access c) = (quoting t conv o s).blockOf (.access c) := rfl

/-- Of a property's lines only its tag depends on the strategy. -/
theorem blockOf_declare_quoting (s s' : QuoteStrategy) (hmem : c ∈ t.rendered)
    (hc : c.Typed (quoting t conv o s)) :
    List.Forall₂ (AlikeButTag (quoting t conv o s) (quoting t conv o s') t)
      ((quoting t conv o s).blockOf (.declare c)) ((quoting t conv o s').blockOf (.declare c)) := by
  obtain ⟨hi, held, hheld⟩ := hc
  have hheld' : (quoting t conv o s').converter.columnType c = .ok held := hheld
  obtain ⟨as, has⟩ := Column.attributes_of_ok hheld
  obtain ⟨as', has'⟩ := Column.attributes_of_ok hheld'
  rw [blockOf_declare_eq hi hheld has, blockOf_declare_eq hi hheld' has']
  refine List.rel_append (List.Forall₂.cons (.same _) ?_) (List.forall₂_refl _)
  refine List.rel_append ?_ (List.Forall₂.cons (.tag hmem has has') ?_)
  · exact List.forall₂_refl (c.docLines ++ c.identifierLines (quoting t conv o s))
  · exact List.forall₂_refl (c.generatedLines (quoting t conv o s))

end RenderContext

namespace Table

/-- Two bodies have their lines in common but for the tags of their columns. -/
theorem forall₂_bodyLines_quoting {t : Table} {conv : Converter} {o : Options}
    (s s' : QuoteStrategy) (h : ∀ c ∈ t.rendered, c.Typed (.quoting t conv o s)) :
    List.Forall₂ ((RenderContext.quoting t conv o s).AlikeButTag (.quoting t conv o s') t)
      (t.bodyLines (.quoting t conv o s)) (t.bodyLines (.quoting t conv o s')) := by
  have hcolumns : List.Forall₂ (fun c d => c ∈ t.rendered ∧ c = d) t.rendered t.rendered :=
    List.forall₂_same.mpr fun c hc => ⟨hc, rfl⟩
  refine List.rel_append (List.rel_flatMap hcolumns ?declared) ?accessed
  case declared =>
    rintro c _ ⟨hc, rfl⟩
    exact RenderContext.blockOf_declare_quoting s s' hc (h c hc)
  case accessed =>
    simp only [RenderContext.blockOf_access_quoting s s']
    exact List.forall₂_refl _

/-- **What the quoting of names changes.** Under two strategies a table fails with the same error,
or it has the same log and two bodies in which the lines at one place are the same or the tags of
one column. What the tag of a column says is the same under all strategies but for the attribute for
its name, which comes first, between back quotes, and is there if the strategy quotes the name. -/
theorem entityBody_quoting (t : Table) (conv : Converter) (o : Options) (s s' : QuoteStrategy) :
    let ctx := RenderContext.quoting t conv o s
    let ctx' := RenderContext.quoting t conv o s'
    (t.entityBody ctx').log = (t.entityBody ctx).log ∧
    ((∃ e, (t.entityBody ctx).result = .error e ∧ (t.entityBody ctx').result = .error e) ∨
      (t.entityBody ctx).result = .ok (CodeBuffer.ended (t.bodyLines ctx)) ∧
      (t.entityBody ctx').result = .ok (CodeBuffer.ended (t.bodyLines ctx')) ∧
      List.Forall₂ (ctx.AlikeButTag ctx' t) (t.bodyLines ctx) (t.bodyLines ctx')) ∧
    ∀ c : Column, (∃ e, ∀ any, c.attributes (.quoting t conv o any) = .error e) ∨
      ∃ others : Attributes, "name" ∉ others.keys ∧
        ∀ any, c.attributes (.quoting t conv o any) = .ok (any.nameEntry c.name ++ others) := by
  intro ctx ctx'
  rcases typed_or_first_error ctx t with h | ⟨before, c, after, e, ht, hb, hc, he⟩
  · have h' : ∀ c ∈ t.rendered, c.Typed ctx' := h
    rw [entityBody_of_typed h, entityBody_of_typed h']
    exact ⟨rfl, .inr ⟨rfl, rfl, forall₂_bodyLines_quoting s s' h⟩,
      Column.attributes_quoting t conv o⟩
  · have hb' : ∀ b ∈ before, b.Typed ctx' := hb
    have he' : ctx'.converter.columnType c = .error e := he
    rw [entityBody_of_error ht hb hc he, entityBody_of_error ht hb' hc he']
    exact ⟨rfl, .inl ⟨e, rfl, rfl⟩, Column.attributes_quoting t conv o⟩

end Table

end AnnotatedEntity
