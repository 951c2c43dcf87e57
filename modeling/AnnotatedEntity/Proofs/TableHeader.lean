/-
The lines that a run prints above the body of a table: the table's class, and its comment if it has
one. Only the line of the class and the first line of the comment are made comments of the source.
What follows a line feed in the comment is printed as it stands, so that all the lines are comments
if and only if those were before (`run_tableHeader`). The comment of a column is treated line by
line, and none of its lines can escape (`Column.docBlock_starred`).
-/
import AnnotatedEntity.Proofs.BufferText
import AnnotatedEntity.Proofs.Run

namespace AnnotatedEntity

/-! ## The lines above a body -/

/-- Nothing comes into a namespace by stripping its ends. -/
theorem bareNamespace_subset (space : List Char) : bareNamespace space ⊆ space :=
  (Text.stripBoth_sublist _ space).subset

namespace Table

open Text (feedLines)

/-- The lines above the body of a table, as they come out. -/
def headerLines (t : Table) : List String :=
  feedLines ("// " ++ t.className) ++ t.comment.toList.flatMap fun c => feedLines ("// " ++ c)

/-- The lines of a table's comment but for the first one. -/
def laterCommentLines (t : Table) : List String :=
  t.comment.toList.flatMap fun c => (feedLines c).tail

variable {t : Table}

theorem not_mem_className (hspace : '\n' ∉ t.classNamespace.toList)
    (hmodel : '\n' ∉ t.model.toList) : '\n' ∉ t.className.toList := by
  have hbare : '\n' ∉ bareNamespace t.classNamespace.toList := fun h =>
    hspace (bareNamespace_subset _ h)
  unfold className
  split
  · simpa using hmodel
  · next h => simpa using ⟨hbare, hmodel⟩

theorem not_mem_of_mem_headerLines {line : String} (h : line ∈ t.headerLines) :
    '\n' ∉ line.toList := by
  rcases List.mem_append.mp h with h | h
  · exact Text.not_mem_of_mem_feedLines h
  · obtain ⟨comment, -, h⟩ := List.mem_flatMap.mp h
    exact Text.not_mem_of_mem_feedLines h

/-- The class and the first line of the comment have slashes in front of them. What follows in the
comment does not. -/
theorem headerLines_eq (h : '\n' ∉ t.className.toList) : t.headerLines =
    (t.className :: t.comment.toList.map Text.firstLine).map ("// " ++ ·) ++
      t.laterCommentLines := by
  have hslashes : '\n' ∉ "// ".toList := by decide
  have hclass : '\n' ∉ ("// " ++ t.className).toList := by
    rw [String.toList_append, List.mem_append, not_or]
    exact ⟨hslashes, h⟩
  rw [headerLines, laterCommentLines, Text.feedLines_of_not_mem hclass]
  cases t.comment with
  | none => rfl
  | some comment => simp [Text.feedLines_append hslashes]

/-- The lines are comments if and only if the comment's own later lines are. -/
theorem forall_headerLines_iff (h : '\n' ∉ t.className.toList) :
    (∀ line ∈ t.headerLines, "//".toList <+: line.toList) ↔
      ∀ line ∈ t.laterCommentLines, "//".toList <+: line.toList := by
  rw [headerLines_eq h, List.forall_mem_append, List.forall_mem_map]
  refine and_iff_right fun line _ => ?_
  rw [String.toList_append]
  exact (show "//".toList <+: "// ".toList by decide).trans (List.prefix_append _ _)

end Table

theorem Execution.block_eq (t : Table) (body : String) :
    block t body = CodeBuffer.ended t.headerLines ++ body ++ "\n" := by
  rw [block, Table.headerLines, CodeBuffer.ended_append, Text.ended_feedLines]
  cases t.comment with
  | none => simp
  | some comment => simp [Text.ended_feedLines]

/-! ## Whole runs -/

namespace Program

open Execution

/-- **What a run prints above a body.** Behind the tables before it a table is printed as its header
lines and its body. The first of these lines is the class behind two slashes. If the class is on one
line, then all of them begin with two slashes if and only if the lines of the table's comment do
that by themselves, from the second one on. -/
theorem run_tableHeader (s : Surroundings) {args : List String} {line : CommandLine}
    {loaded o : Options} {m : Manifest} {before : List (Table × String)} {t : Table}
    {after : List Table} {body : String} (hline : CommandLine.parse args = .ok line)
    (hload : loadOptions s.files (optionsPath s.files s.userOptions line) = .ok loaded)
    (ho : override line loaded = o) (hm : Manifest.load s.files line.manifest = .ok m)
    (htables : m.tablesUnder o = before.map (·.1) ++ t :: after)
    (hbefore : ∀ p ∈ before, (p.1.entityBody (.standard o p.1)).result = .ok p.2)
    (hbody : (t.entityBody (.standard o t)).result = .ok body)
    (hspace : '\n' ∉ t.classNamespace.toList) (hmodel : '\n' ∉ t.model.toList) :
    (run s args).output = String.join (before.map fun p => block p.1 p.2) ++
        (CodeBuffer.ended t.headerLines ++ body ++ "\n") ++
        (ofTables o (.ofOptions o) after).output ∧
      (∀ printed ∈ t.headerLines, '\n' ∉ printed.toList) ∧
      t.headerLines.head? = some ("// " ++ t.className) ∧
      ((∀ printed ∈ t.headerLines, "//".toList <+: printed.toList) ↔
        ∀ printed ∈ t.laterCommentLines, "//".toList <+: printed.toList) := by
  subst ho
  have hclass := Table.not_mem_className hspace hmodel
  refine ⟨?_, fun printed => Table.not_mem_of_mem_headerLines, ?_,
    Table.forall_headerLines_iff hclass⟩
  · rw [run_of_execution s hline, ofCommandLine_of_ok hload hm, htables,
      ofTables_append (t :: after) hbefore, ofTables_cons_of_ok hbody, block_eq t]
    simp only [outcomeOf, Execution.after, String.empty_append, String.append_assoc]
  · rw [Table.headerLines_eq hclass]
    rfl

/-- A manifest with one table, which has no columns, and a comment as it is written down. -/
def labelled (comment : String) : Surroundings where
  files path :=
    if path = "shop.toml" then
      .ok ("[[tables]]\nname = \"item\"\ncomment = \"" ++ comment ++ "\"\n").toUTF8
    else .error .notFound
  userOptions := none
  variableFile := none
  environment _ := none

/-- The table of such a manifest. -/
def item (comment : String) : Table where
  name := "item"
  model := "Item"
  classNamespace := "App\\Entity"
  columns := []
  comment := some comment

theorem run_tableHeader_labelled :
    (run (labelled "Goods\\n// in stock") ["shop.toml"]).output =
      CodeBuffer.ended (item "Goods\n// in stock").headerLines ++ "\n" ∧
    ∀ printed ∈ (item "Goods\n// in stock").headerLines, "//".toList <+: printed.toList := by
  have hline : CommandLine.parse ["shop.toml"] = .ok { manifest := "shop.toml" } := by decide
  have hm : Manifest.load (labelled "Goods\\n// in stock").files "shop.toml" =
      .ok { tables := [{ name := "item", comment := some "Goods\n// in stock" }] } := by
    decide +kernel
  have htables : Manifest.tablesUnder (override { manifest := "shop.toml" } {})
      { tables := [{ name := "item", comment := some "Goods\n// in stock" }] } =
      ([] : List (Table × String)).map (·.1) ++ [item "Goods\n// in stock"] := by decide +kernel
  have hbody : ∀ comment, ((item comment).entityBody (.standard {} (item comment))).result =
      .ok "" := fun _ => rfl
  obtain ⟨houtput, -, -, hslashes⟩ := run_tableHeader (labelled "Goods\\n// in stock") hline rfl rfl
    hm htables (by simp) (hbody _) (by decide) (by decide)
  exact ⟨by simpa [ofTables] using houtput, hslashes.mpr (by decide)⟩

/-- What a comment says behind a line feed can be printed as anything but a comment. -/
theorem run_tableHeader_open : ¬ ∀ (s : Surroundings) (args : List String) (line : CommandLine)
    (loaded : Options) (m : Manifest) (t : Table) (body : String) (header : List String),
    CommandLine.parse args = .ok line →
    loadOptions s.files (optionsPath s.files s.userOptions line) = .ok loaded →
    Manifest.load s.files line.manifest = .ok m →
    m.tablesUnder (override line loaded) = [t] →
    (t.entityBody (.standard (override line loaded) t)).result = .ok body →
    '\n' ∉ t.classNamespace.toList → '\n' ∉ t.model.toList →
    (∀ printed ∈ header, '\n' ∉ printed.toList) →
    (run s args).output = CodeBuffer.ended header ++ body ++ "\n" →
    ∀ printed ∈ header, "//".toList <+: printed.toList := by
  intro h
  have hlines := h (labelled "Goods\\nin stock") ["shop.toml"] { manifest := "shop.toml" } {}
    { tables := [{ name := "item", comment := some "Goods\nin stock" }] } (item "Goods\nin stock")
    "" ["// \\App\\Entity\\Item", "// Goods", "in stock"] (by decide) rfl (by decide +kernel)
    (by decide +kernel) (by decide +kernel) (by decide) (by decide) (by decide) (by decide +kernel)
  exact absurd (hlines "in stock" (by simp)) (by decide)

end Program

end AnnotatedEntity
