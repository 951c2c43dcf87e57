/-
The doc block above a property: the comment of the column line by line, and the tags. Every line of
it begins with a star, so that it stays a comment up to the mark that ends one. A text of the column
can hold such a mark itself, and then the block is closed there. Where the names and types hold
none, it is the comment alone that closes the block early, or the strategy by which an identifier
is generated (`docBlock_closed_iff`).
-/
import AnnotatedEntity.Proofs.AttributeContent
import AnnotatedEntity.Proofs.Quoting
import AnnotatedEntity.Proofs.Text.CommentEnd

namespace AnnotatedEntity

open Text (EndsComment KeepsApart)

/-! ## Lines of a comment -/

/-- Putting a comment's line into a doc block neither ends the block nor keeps it open. -/
theorem endsComment_docLine (line : List Char) : EndsComment (docLine line) ↔ EndsComment line := by
  have hstart : KeepsApart " * ".toList := by decide
  rw [docLine, Text.endsComment_trimEnd, Text.endsComment_behind hstart, Text.endsComment_trimEnd]

theorem endsComment_iff_commentLines (comment : List Char) :
    EndsComment comment ↔ ∃ line ∈ commentLines comment, EndsComment line := by
  rw [← Text.endsComment_trim, commentLines]
  split
  · next h => simpa [h] using Text.not_endsComment_nil
  · rw [Text.endsComment_iff_splitOn]
    simp only [List.mem_map, exists_exists_and_eq_and, endsComment_docLine]

/-! ## Contents of tags -/

theorem endsComment_render_text (s : String) :
    EndsComment (AttributeValue.text s).render.toList ↔ EndsComment s.toList := by
  have hquote : KeepsApart ['\x22'] := by decide
  have htext : (AttributeValue.text s).render.toList =
      ['\x22'] ++ (doubleQuotes s.toList ++ ['\x22']) := by
    simp [AttributeValue.render]
  rw [htext, Text.endsComment_behind hquote, Text.endsComment_before hquote,
    Text.endsComment_doubleQuotes]

theorem not_endsComment_render_number (n : Int) :
    ¬ EndsComment (AttributeValue.number n).render.toList :=
  Text.not_endsComment_of_slash fun h => by
    rcases AttributeValue.isAlphanum_of_mem_toString_int h with h | h <;> revert h <;> decide

theorem not_endsComment_render_flag (b : Bool) :
    ¬ EndsComment (AttributeValue.flag b).render.toList := by
  cases b <;> decide

theorem endsComment_content (as : Attributes) : EndsComment as.content.toList ↔
    ∃ p ∈ as, EndsComment p.1.toList ∨ EndsComment p.2.render.toList := by
  have hcomma : KeepsApart ", ".toList := by decide
  have hequals : KeepsApart ['='] := by decide
  rw [Attributes.toList_content, Text.endsComment_intercalate hcomma]
  simp only [List.mem_map, exists_exists_and_eq_and]
  exact exists_congr fun p => and_congr_right fun _ => Text.endsComment_append_apart hequals

/-! ## Where a doc block is closed -/

theorem MappedType.not_endsComment_tagName {mapped : MappedType}
    (h : ¬ EndsComment mapped.name.toList) : ¬ EndsComment mapped.tagName.toList := by
  cases mapped
  case array => decide
  all_goals exact h

theorem QuoteStrategy.endsComment_quote (s : QuoteStrategy) (name : String) :
    EndsComment (s.quote name).toList ↔ EndsComment name.toList := by
  have hquote : KeepsApart ['`'] := by decide
  have hquoted : ("`" ++ name ++ "`").toList = ['`'] ++ (name.toList ++ ['`']) := by simp
  rw [quote_eq]
  split
  · rw [hquoted, Text.endsComment_behind hquote, Text.endsComment_before hquote]
  · rfl

namespace Column

variable {t : Table} {conv : Converter} {o : Options} {c : Column} {mapped : MappedType}
  {held : NativeType} {as : Attributes}

/-- Of what the tag of a column says, only the name and the type are texts of others. -/
theorem not_endsComment_slot (hname : ¬ EndsComment c.name.toList)
    (htype : ¬ EndsComment mapped.name.toList) :
    ∀ slot ∈ c.attributeSlots (.ofTable t conv o) mapped, ∀ v, slot.2 = some v →
      ¬ EndsComment v.render.toList := by
  have hnumber : ∀ (α : Type) (given : Option α) (f : α → Int) (v : AttributeValue),
      (given.map fun a => .number (f a)) = some v → ¬ EndsComment v.render.toList := by
    intro α given f v hv
    obtain ⟨a, -, rfl⟩ := Option.map_eq_some_iff.mp hv
    exact not_endsComment_render_number (f a)
  simp only [attributeSlots, otherSlots, List.forall_mem_cons]
  refine ⟨?name, ?type, hnumber _ _ id, hnumber _ _ Prod.fst, hnumber _ _ Prod.snd, ?nullable,
    ?options, by simp⟩
  case name =>
    intro v hv
    obtain ⟨-, hv⟩ := Option.ite_none_left_eq_some.mp hv
    obtain rfl := Option.some.inj hv
    rw [endsComment_render_text]
    exact fun h => hname ((QuoteStrategy.endsComment_quote o.quoteStrategy c.name).mp h)
  case type =>
    intro v hv
    obtain rfl := Option.some.inj hv
    rw [endsComment_render_text]
    exact MappedType.not_endsComment_tagName htype
  case nullable =>
    intro v hv
    obtain ⟨-, rfl⟩ := Attributes.ite_eq_some_iff.mp hv
    exact not_endsComment_render_flag c.nullable
  case options =>
    intro v hv
    obtain ⟨-, rfl⟩ := Attributes.ite_eq_some_iff.mp hv
    decide

theorem not_endsComment_attributes (hm : conv.mappedType c = .ok mapped)
    (has : c.attributes (.ofTable t conv o) = .ok as) (hname : ¬ EndsComment c.name.toList)
    (htype : ¬ EndsComment mapped.name.toList) : ¬ EndsComment as.content.toList := by
  rw [attributes_of_mappedType hm] at has
  obtain rfl := Except.ok.inj has
  have hkeys : ∀ key ∈ attributeNames, ¬ EndsComment key.toList := by decide
  rw [endsComment_content]
  rintro ⟨p, hp, hends⟩
  rw [Attributes.mem_ofSlots_iff] at hp
  have hkey : p.1 ∈ attributeNames := List.mem_map_of_mem (f := Prod.fst) hp
  exact hends.elim (hkeys p.1 hkey)
    (not_endsComment_slot hname htype _ hp p.2 rfl)

/-- A line of a tag ends a comment through the start that all tags share or through its content. -/
theorem endsComment_tagLine {name : String} (h : KeepsApart (name ++ "(").toList) :
    EndsComment (tagLine (.ofTable t conv o) name (some as)).toList ↔
      EndsComment o.tagPrefix.toList ∨ EndsComment as.content.toList := by
  have hsign : KeepsApart " * @".toList := by decide
  have hclose : KeepsApart [')'] := by decide
  have hline : (tagLine (.ofTable t conv o) name (some as)).toList = " * @".toList ++
      (o.tagPrefix.toList ++ ((name ++ "(").toList ++ (as.content.toList ++ [')']))) := by
    simp [tagLine, RenderContext.ofTable, TableView.ofTable, writeTag]
  rw [hline, Text.endsComment_behind hsign, Text.endsComment_append_apart h,
    Text.endsComment_before hclose]

theorem endsComment_identifierLine : EndsComment (tagLine (.ofTable t conv o) "Id" none).toList ↔
    EndsComment o.tagPrefix.toList := by
  have hsign : KeepsApart " * @".toList := by decide
  have hname : KeepsApart "Id".toList := by decide
  have hline : (tagLine (.ofTable t conv o) "Id" none).toList =
      " * @".toList ++ (o.tagPrefix.toList ++ "Id".toList) := by
    simp [tagLine, RenderContext.ofTable, TableView.ofTable, writeTag]
  rw [hline, Text.endsComment_behind hsign, Text.endsComment_before hname]

/-- The tag of a generated identifier ends a comment through its strategy. -/
theorem endsComment_generatedLine (h : ¬ EndsComment o.tagPrefix.toList) :
    EndsComment (tagLine (.ofTable t conv o) "GeneratedValue"
      (some [("strategy", .text o.strategyName)])).toList ↔ EndsComment o.strategyName.toList := by
  have hname : KeepsApart ("GeneratedValue" ++ "(").toList := by decide
  have hkey : ¬ EndsComment "strategy".toList := by decide
  rw [endsComment_tagLine hname, or_iff_right h, endsComment_content]
  simp only [List.mem_singleton, exists_eq_left, or_iff_right hkey, endsComment_render_text]

/-! ### All lines of a doc block -/

theorem forall_docLines_iff : (∀ line ∈ c.docLines, ¬ EndsComment line.toList) ↔
    ¬ EndsComment (c.comment.getD "").toList := by
  rw [endsComment_iff_commentLines, docLines]
  simp only [List.forall_mem_map, String.toList_ofList, not_exists, not_and]

theorem forall_identifierLines (h : ¬ EndsComment o.tagPrefix.toList) :
    ∀ line ∈ c.identifierLines (.ofTable t conv o), ¬ EndsComment line.toList := by
  unfold identifierLines
  split
  · exact List.forall_mem_singleton.mpr fun hends => h (endsComment_identifierLine.mp hends)
  · simp

theorem forall_generatedLines_iff (h : ¬ EndsComment o.tagPrefix.toList) :
    (∀ line ∈ c.generatedLines (.ofTable t conv o), ¬ EndsComment line.toList) ↔
      (c.isAutoIncrement = true → ¬ EndsComment o.strategyName.toList) := by
  rw [generatedLines]
  split
  · next hauto =>
    rw [List.forall_mem_singleton, forall_prop_of_true hauto]
    exact not_congr (endsComment_generatedLine h)
  · next hauto => simp [hauto]

/-- Where name, type and common start of tags are harmless, a doc block is closed early by its
comment or by the strategy of a generated identifier, or not at all. -/
theorem forall_docBlock_iff (hm : conv.mappedType c = .ok mapped)
    (has : c.attributes (.ofTable t conv o) = .ok as) (hname : ¬ EndsComment c.name.toList)
    (htype : ¬ EndsComment mapped.name.toList) (hstart : ¬ EndsComment o.tagPrefix.toList) :
    (∀ line ∈ "/**" :: c.docBlock (.ofTable t conv o) as, ¬ EndsComment line.toList) ↔
      ¬ EndsComment (c.comment.getD "").toList ∧
        (c.isAutoIncrement = true → ¬ EndsComment o.strategyName.toList) := by
  have hopening : ¬ EndsComment "/**".toList := by decide
  have hcolumn : KeepsApart ("Column" ++ "(").toList := by decide
  have htag : ¬ EndsComment (tagLine (.ofTable t conv o) "Column" (some as)).toList := by
    rw [endsComment_tagLine hcolumn]
    exact not_or.mpr ⟨hstart, not_endsComment_attributes hm has hname htype⟩
  simp only [docBlock, List.forall_mem_cons, List.forall_mem_append]
  rw [forall_docLines_iff, forall_generatedLines_iff hstart]
  constructor
  · rintro ⟨-, ⟨hdoc, -⟩, -, hgenerated⟩
    exact ⟨hdoc, hgenerated⟩
  · rintro ⟨hdoc, hgenerated⟩
    exact ⟨hopening, ⟨hdoc, forall_identifierLines hstart⟩, htag, hgenerated⟩

theorem columnType_of_declaration {ctx : RenderContext} {edits : List Edit}
    (hc : c.isIgnored = false) (h : (c.declaration ctx).result = .ok edits) :
    ∃ held, ctx.converter.columnType c = .ok held := by
  match hheld : ctx.converter.columnType c with
  | .ok held => exact ⟨held, rfl⟩
  | .error e =>
    rw [declaration_of_error hc hheld] at h
    cases h

/-- **Where the doc block of a property is closed.** If a column is written, then between the two
marks every line begins with a star. Where its name, its type and the common start of tags end no
comment, none is ended before the closing mark if and only if the column's own comment ends none
and neither does the strategy of an identifier that is generated. -/
theorem docBlock_closed_iff (t : Table) (conv : Converter) (o : Options) {c : Column}
    {edits : List Edit} (hc : c.isIgnored = false)
    (h : (c.declaration (.ofTable t conv o)).result = .ok edits) :
    ∃ mapped held inner, conv.mappedType c = .ok mapped ∧ conv.nativeType mapped = .ok held ∧
      (RenderContext.ofTable t conv o).blockOf (.declare c) =
        "/**" :: inner ++ [" */", "protected $" ++ c.name ++ c.initializer held ++ ";", ""] ∧
      (∀ line ∈ inner, " *".toList <+: line.toList) ∧
      (¬ EndsComment c.name.toList → ¬ EndsComment mapped.name.toList →
        ¬ EndsComment o.tagPrefix.toList →
        ((∀ line ∈ "/**" :: inner, ¬ EndsComment line.toList) ↔
          ¬ EndsComment (c.comment.getD "").toList ∧
            (c.isAutoIncrement = true → ¬ EndsComment o.strategyName.toList))) := by
  obtain ⟨held, hheld⟩ := columnType_of_declaration hc h
  obtain ⟨as, has⟩ := attributes_of_ok hheld
  obtain ⟨mapped, hm, hn⟩ := Converter.columnType_eq_ok_iff.mp hheld
  exact ⟨mapped, held, c.docBlock (.ofTable t conv o) as, hm, hn,
    RenderContext.blockOf_declare_eq hc hheld has, docBlock_starred,
    forall_docBlock_iff hm has⟩

/-- A column whose comment has stars and slashes, but no star before a slash. -/
def remark : Column where
  name := "remark"
  rawType := "INT"
  comment := some "2 * 3\n/ 4 *"
  isAutoIncrement := true

theorem docBlock_closed_remark : ∃ edits inner held,
    (remark.declaration (.ofTable default (.ofOptions {}) {})).result = .ok edits ∧
    (RenderContext.ofTable default (.ofOptions {}) {}).blockOf (.declare remark) =
      "/**" :: inner ++ [" */", "protected $remark" ++ remark.initializer held ++ ";", ""] ∧
    ∀ line ∈ "/**" :: inner, ¬ EndsComment line.toList := by
  have hdeclared : ∃ edits, (remark.declaration (.ofTable default (.ofOptions {}) {})).result =
      .ok edits := ⟨_, rfl⟩
  obtain ⟨edits, hedits⟩ := hdeclared
  obtain ⟨mapped, held, inner, hm, -, hblock, -, hclosed⟩ :=
    docBlock_closed_iff default (.ofOptions {}) {} (by decide) hedits
  have hinteger : (Converter.ofOptions {}).mappedType remark = .ok .integer := by decide +kernel
  obtain rfl := Except.ok.inj (hinteger.symm.trans hm)
  exact ⟨edits, inner, held, hedits, hblock,
    (hclosed (by decide) (by decide) (by decide)).mpr (by decide +kernel)⟩

/-- A column whose comment ends the doc block in which it stands. -/
def note : Column where
  name := "note"
  rawType := "INT"
  comment := some "first */ second"

/-- Harmless names and types do not keep a doc block from being closed by the comment in it. -/
theorem docBlock_closed_early : ¬ ∀ (t : Table) (conv : Converter) (o : Options) (c : Column)
    (edits : List Edit) (mapped : MappedType) (inner : List String) (property : String),
    c.isIgnored = false → (c.declaration (.ofTable t conv o)).result = .ok edits →
    conv.mappedType c = .ok mapped → ¬ EndsComment c.name.toList →
    ¬ EndsComment mapped.name.toList → ¬ EndsComment o.tagPrefix.toList →
    (RenderContext.ofTable t conv o).blockOf (.declare c) =
      "/**" :: inner ++ [" */", property, ""] →
    (∀ line ∈ "/**" :: inner, ¬ EndsComment line.toList) ∧
      ∀ line ∈ inner, " *".toList <+: line.toList := by
  intro h
  have hblock : (RenderContext.ofTable default (.ofOptions {}) {}).blockOf (.declare note) =
      "/**" :: [" * first */ second", " * @ORM\\Column(type=\"integer\")"] ++
        [" */", "protected $note;", ""] := by decide +kernel
  have hlines := (h default (.ofOptions {}) {} note _ .integer _ _ (by decide) rfl
    (by decide +kernel) (by decide) (by decide) (by decide) hblock).1
  exact hlines " * first */ second" (by simp) (by decide)

-- Without a comment it can be the strategy.
example : " * @ORM\\GeneratedValue(strategy=\"*/\")" ∈
    (RenderContext.ofTable default (.ofOptions {}) { generatedValueStrategy := "*/" }).blockOf
      (.declare { name := "id", rawType := "INT", isAutoIncrement := true }) := by decide +kernel

end Column

end AnnotatedEntity
