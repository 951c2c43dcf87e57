/-
The methods that an entity's body declares. Each column that is not ignored gives a getter and,
unless it is the identifier, a setter, and no other line of the body is a signature
(`filterMap_bodyLines`). Their names hold what is left of the column's name without underscores and
with raised letters, so that columns of different names can declare the same method
(`methods_clash`). The methods are distinct exactly where these remains are
(`nodup_declaredMethods_iff`).
-/
import AnnotatedEntity.Proofs.EntityBody
import Mathlib.Data.List.Nodup

namespace AnnotatedEntity

/-! ## Signatures -/

/-- How the signature of a method begins. -/
def signatureStart : String := "public function "

/-- The method that a line declares: what stands in a signature before the first parenthesis. -/
def declaredMethod? (line : String) : Option String :=
  if signatureStart.toList.isPrefixOf line.toList then
    some (String.ofList ((line.toList.drop signatureStart.toList.length).takeWhile (· ≠ '(')))
  else none

theorem declaredMethod?_signature {line : String} {name rest : List Char}
    (h : line.toList = signatureStart.toList ++ (name ++ '(' :: rest)) :
    declaredMethod? line = some (String.ofList (name.takeWhile (· ≠ '('))) := by
  have hstart : signatureStart.toList.isPrefixOf line.toList = true := by
    rw [List.isPrefixOf_iff_prefix, h]
    exact List.prefix_append _ _
  rw [declaredMethod?, if_pos hstart, h, List.drop_left,
    Text.takeWhile_append_stop (by decide)]

/-- No other line begins with the first two letters of a signature. -/
theorem declaredMethod?_eq_none {line : String} (h : line.toList.take 2 ≠ ['p', 'u']) :
    declaredMethod? line = none := by
  rw [declaredMethod?, if_neg]
  intro hstart
  obtain ⟨rest, hrest⟩ := List.isPrefixOf_iff_prefix.mp hstart
  rw [← hrest] at h
  exact h rfl

theorem declaredMethod?_indented {n depth : Nat} {line : String}
    (h : line.toList.take 2 ≠ ['p', 'u']) :
    declaredMethod? (CodeBuffer.indented n depth line) = none := by
  refine declaredMethod?_eq_none ?_
  unfold CodeBuffer.indented
  split
  · simp
  · rw [String.toList_append, String.toList_ofList]
    cases n * depth with
    | zero => exact h
    | succ k => simp [List.replicate_succ]

namespace Column

variable {ctx : RenderContext} {c d : Column} {held : NativeType}

/-! ## Methods of a column -/

/-- What the names of a column's methods end in. A parenthesis in it would end them before. -/
def methodStem (c : Column) : String :=
  String.ofList (c.methodSuffix.toList.takeWhile (· ≠ '('))

/-- The methods of a column: a setter, unless it is the identifier, and a getter. -/
def methods (c : Column) : List String :=
  (if c.name = "id" then [] else ["set" ++ c.methodStem]) ++ ["get" ++ c.methodStem]

/-- No line of a property is a signature. -/
theorem filterMap_declaration (hc : c.isIgnored = false)
    (h : ctx.converter.columnType c = .ok held) :
    (ctx.blockOf (.declare c)).filterMap declaredMethod? = [] := by
  obtain ⟨as, has⟩ := attributes_of_ok h
  rw [RenderContext.blockOf_declare_eq hc h has, List.filterMap_eq_nil_iff]
  intro line hline
  simp only [List.cons_append, List.mem_cons, List.mem_append, List.not_mem_nil, or_false] at hline
  refine declaredMethod?_eq_none ?_
  rcases hline with rfl | hdoc | rfl | rfl | rfl
  case inr.inl =>
    obtain ⟨rest, hrest⟩ := docBlock_starred line hdoc
    simp [← hrest]
  all_goals simp [propertyLine]

/-- The signature of an accessor declares the method of its kind. -/
theorem declaredMethod?_accessor {line kind : String} (rest : String)
    (hkind : kind.toList.all (· ≠ '('))
    (h : line.toList =
      signatureStart.toList ++ (kind.toList ++ c.methodSuffix.toList ++ '(' :: rest.toList)) :
    declaredMethod? line = some (kind ++ c.methodStem) := by
  rw [declaredMethod?_signature h, List.takeWhile_append_of_pos (List.all_eq_true.mp hkind),
    String.ofList_append, String.ofList_toList, methodStem]

theorem filterMap_setterLines :
    (c.setterLines ctx held).filterMap declaredMethod? = ["set" ++ c.methodStem] := by
  have hsignature : declaredMethod? ("public function set" ++ c.methodSuffix ++ "(" ++
      typehint ctx held ++ "$" ++ c.name ++ (if c.nullable then " = null" else "") ++ ")") =
      some ("set" ++ c.methodStem) :=
    declaredMethod?_accessor
      (typehint ctx held ++ "$" ++ c.name ++ (if c.nullable then " = null" else "") ++ ")")
      (by decide) (by simp [signatureStart])
  simp only [setterLines, setterEdits, Edit.writtenAll, Edit.written, Edit.depthAfter,
    CodeBuffer.indented_zero, List.singleton_append, List.nil_append]
  simp (disch := first
    | apply declaredMethod?_eq_none; simp; done
    | apply declaredMethod?_indented; simp; done) only
      [List.filterMap_cons_none, List.filterMap_cons_some hsignature, List.filterMap_nil]

theorem filterMap_getterLines :
    (c.getterLines ctx held).filterMap declaredMethod? = ["get" ++ c.methodStem] := by
  have hsignature : declaredMethod? ("public function get" ++ c.methodSuffix ++ "(): " ++
      held.returnType c.nullable) = some ("get" ++ c.methodStem) :=
    declaredMethod?_accessor ("): " ++ held.returnType c.nullable) (by decide)
      (by simp [signatureStart])
  simp only [getterLines, getterEdits, Edit.writtenAll, Edit.written, Edit.depthAfter,
    CodeBuffer.indented_zero, List.singleton_append, List.nil_append]
  simp (disch := first
    | apply declaredMethod?_eq_none; simp; done
    | apply declaredMethod?_indented; simp; done) only
      [List.filterMap_cons_none, List.filterMap_cons_some hsignature, List.filterMap_nil]

/-- The lines of the accessors declare the methods of the column. -/
theorem filterMap_accessors :
    ("" :: (if c.name = "id" then [] else c.setterLines ctx held) ++
      c.getterLines ctx held).filterMap declaredMethod? = c.methods := by
  have hempty : declaredMethod? "" = none := declaredMethod?_eq_none (by simp)
  rw [List.cons_append, List.filterMap_cons_none hempty, List.filterMap_append,
    filterMap_getterLines, methods]
  split
  · rfl
  · rw [filterMap_setterLines]

theorem mem_methods_iff {m : String} : m ∈ c.methods ↔
    (c.name ≠ "id" ∧ m = "set" ++ c.methodStem) ∨ m = "get" ++ c.methodStem := by
  by_cases h : c.name = "id" <;> simp [methods, h]

theorem set_ne_get (a b : String) : "set" ++ a ≠ "get" ++ b := by
  intro h
  have := congrArg String.toList h
  simp at this

theorem nodup_methods (c : Column) : c.methods.Nodup := by
  by_cases h : c.name = "id"
  · simp [methods, h]
  · simp [methods, h]

/-- Two columns have a method in common if and only if their stems are equal. -/
theorem disjoint_methods_iff : List.Disjoint c.methods d.methods ↔ c.methodStem ≠ d.methodStem := by
  constructor
  · intro h heq
    refine h (mem_methods_iff.mpr (.inr rfl)) (mem_methods_iff.mpr (.inr ?_))
    rw [heq]
  · intro hne m hc hd
    rcases mem_methods_iff.mp hc with ⟨-, rfl⟩ | rfl <;>
      rcases mem_methods_iff.mp hd with ⟨-, heq⟩ | heq
    · exact hne (String.append_right_inj _ |>.mp heq)
    · exact set_ne_get _ _ heq
    · exact set_ne_get _ _ heq.symm
    · exact hne (String.append_right_inj _ |>.mp heq)

theorem nodup_flatMap_methods_iff {columns : List Column} :
    (columns.flatMap methods).Nodup ↔ (columns.map methodStem).Nodup := by
  rw [List.nodup_flatMap, and_iff_right fun c _ => nodup_methods c, List.Nodup, List.pairwise_map]
  exact List.Pairwise.iff fun _ _ => disjoint_methods_iff

end Column

namespace Table

variable {ctx : RenderContext} {t : Table}

/-- **The signatures of a body** are those of its columns' methods. -/
theorem filterMap_bodyLines (h : ∀ c ∈ t.rendered, c.Typed ctx) :
    (t.bodyLines ctx).filterMap declaredMethod? = t.rendered.flatMap Column.methods := by
  have hdeclare : ∀ c ∈ t.rendered, (ctx.blockOf (.declare c)).filterMap declaredMethod? = [] := by
    intro c hc
    obtain ⟨hi, held, hheld⟩ := h c hc
    exact Column.filterMap_declaration hi hheld
  have haccess : ∀ c ∈ t.rendered,
      (ctx.blockOf (.access c)).filterMap declaredMethod? = c.methods := by
    intro c hc
    obtain ⟨hi, held, hheld⟩ := h c hc
    rw [RenderContext.blockOf_access_eq hi hheld, Column.filterMap_accessors]
  rw [bodyLines, List.filterMap_append, List.filterMap_flatMap, List.filterMap_flatMap,
    List.flatMap_eq_nil_iff.mpr hdeclare, List.nil_append, List.flatMap_congr haccess]

/-- **The methods of a body** are those of its columns in their order, and no two signatures declare
the same one if and only if no two stems are equal. -/
theorem nodup_declaredMethods_iff (ctx : RenderContext) (t : Table) {body : String}
    (h : (t.entityBody ctx).result = .ok body) :
    body = CodeBuffer.ended (t.bodyLines ctx) ∧
    (t.bodyLines ctx).filterMap declaredMethod? = t.rendered.flatMap Column.methods ∧
    (((t.bodyLines ctx).filterMap declaredMethod?).Nodup ↔
      (t.rendered.map Column.methodStem).Nodup) := by
  have hmethods := filterMap_bodyLines (typed_of_ok h)
  refine ⟨eq_ended_of_ok h, hmethods, ?_⟩
  rw [hmethods]
  exact Column.nodup_flatMap_methods_iff

/-- A table whose columns give distinct methods. -/
def accounts : Table where
  name := "accounts"
  model := "Account"
  classNamespace := "App\\Entity"
  columns := [{ name := "id", rawType := "INT" }, { name := "user_id", rawType := "INT" }]

/-- A table with a column in two spellings of one name. -/
def twins : Table where
  name := "twins"
  model := "Twin"
  classNamespace := "App\\Entity"
  columns := [{ name := "user_id", rawType := "INT" }, { name := "userId", rawType := "INT" }]

/-- What tables are rendered with where no options are set. -/
def plainContext (t : Table) : RenderContext := .ofTable t (.ofOptions {}) {}

/-- Without options a table of whole numbers is rendered. -/
theorem typed_of_integers {t : Table} (h : ∀ c ∈ t.rendered, c.isIgnored = false ∧
    (Converter.ofOptions {}).columnType c = .ok .integer) :
    ∀ c ∈ t.rendered, c.Typed t.plainContext :=
  fun c hc => ⟨(h c hc).1, .integer, (h c hc).2⟩

theorem nodup_declaredMethods_accounts : ∃ body,
    (accounts.entityBody accounts.plainContext).result = .ok body ∧
      ((accounts.bodyLines accounts.plainContext).filterMap declaredMethod?).Nodup := by
  have hbody : (accounts.entityBody accounts.plainContext).result = .ok _ :=
    congrArg Attempt.result (entityBody_of_typed (typed_of_integers (by decide +kernel)))
  exact ⟨_, hbody, (nodup_declaredMethods_iff _ _ hbody).2.2.mpr (by decide +kernel)⟩

/-- Columns of different names can declare one method twice. -/
theorem methods_clash : ¬ ∀ (ctx : RenderContext) (t : Table) (body : String),
    (t.rendered.map (·.name)).Nodup → (t.entityBody ctx).result = .ok body →
      ((t.bodyLines ctx).filterMap declaredMethod?).Nodup := by
  intro h
  have htyped : ∀ c ∈ twins.rendered, c.Typed twins.plainContext :=
    typed_of_integers (by decide +kernel)
  have hnodup := h twins.plainContext twins _ (by decide)
    (congrArg Attempt.result (entityBody_of_typed htyped))
  rw [filterMap_bodyLines htyped] at hnodup
  revert hnodup
  decide +kernel

end Table

end AnnotatedEntity
