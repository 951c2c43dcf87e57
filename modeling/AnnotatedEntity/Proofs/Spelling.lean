/-
The spellings of a manifest. Its tables and columns are records, and a record may be written as a
table, with its keys in any order and foreign keys between them, or as the list of its first values,
with further items behind those of all its fields. Respelling any of the entries in these ways
leaves the manifest that is read as it is (`ofEntries_of_respelt`), since a record is read field by
field and does not ask how the value of a field was found (`shape_iff_of_respelt`).
-/
import AnnotatedEntity.Proofs.ManifestDocument

namespace AnnotatedEntity

open Toml (Value)

namespace Schema

/-! ## Records in two spellings -/

/-- Two spellings of one record with fields of these names. Of values of a field it is said apart
which are alike. -/
inductive Respelt (names : List String) (alike : String → Value → Value → Prop) :
    Value → Value → Prop
  /-- The keys of a table stand in another order. -/
  | permuted {entries others : List (String × Value)} (keys : (entries.map Prod.fst).Nodup)
      (perm : entries.Perm others) : Respelt names alike (.table entries) (.table others)
  /-- A table has one more key, which is no field's. -/
  | foreign (front : List (String × Value)) {back : List (String × Value)} {key : String}
      {v : Value} (key_not : key ∉ names) :
      Respelt names alike (.table (front ++ back)) (.table (front ++ (key, v) :: back))
  /-- The first fields are written as a table or as a list of their values. -/
  | listed (values : List Value) (length_le : values.length ≤ names.length) :
      Respelt names alike (.table (names.zip values)) (.array values)
  /-- Further items stand behind the values of all fields. -/
  | surplus {values more : List Value} (length_eq : values.length = names.length) :
      Respelt names alike (.array values) (.array (values ++ more))
  /-- The value of a field in a table is respelt. -/
  | field (front : List (String × Value)) {back : List (String × Value)} {name : String}
      {v w : Value} (same : alike name v w) : Respelt names alike
        (.table (front ++ (name, v) :: back)) (.table (front ++ (name, w) :: back))
  /-- The value of a field in a list is respelt. -/
  | item {front back : List Value} {name : String} {v w : Value}
      (position : names[front.length]? = some name) (same : alike name v w) :
      Respelt names alike (.array (front ++ v :: back)) (.array (front ++ w :: back))
  | refl (v : Value) : Respelt names alike v v
  | symm {v w : Value} : Respelt names alike v w → Respelt names alike w v
  | trans {u v w : Value} : Respelt names alike u v → Respelt names alike v w →
      Respelt names alike u w

variable {α : Type} {alike : String → Value → Value → Prop}

theorem holdsAlike_of_alike {key : String} {v w : Value} (h : alike key v w)
    (front back : List (String × Value)) (name : String) :
    Fields.HoldsAlike alike (front ++ (key, v) :: back) (front ++ (key, w) :: back) name := by
  simp only [Fields.HoldsAlike, List.lookup_append, lookup_cons_eq_ite]
  cases front.lookup name with
  | some u => exact .inl rfl
  | none =>
    by_cases hname : name = key
    · subst hname
      exact .inr ⟨v, w, h, by simp, by simp⟩
    · exact .inl (by simp [hname])

theorem lookup_foreign {key name : String} (h : name ≠ key) (v : Value)
    (front back : List (String × Value)) :
    (front ++ (key, v) :: back).lookup name = (front ++ back).lookup name := by
  simp only [List.lookup_append, lookup_cons_eq_ite, if_neg h]

/-- A value in a list stands under the name of its position. -/
theorem zip_append_cons {names : List String} {name : String} {front : List Value}
    (h : names[front.length]? = some name) :
    ∃ (before : List (String × Value)) (after : List String), ∀ v back,
      names.zip (front ++ v :: back) = before ++ (name, v) :: after.zip back := by
  obtain ⟨hlt, hname⟩ := List.getElem?_eq_some_iff.mp h
  refine ⟨(names.take front.length).zip front, names.drop (front.length + 1), fun v back => ?_⟩
  have hsplit : names = names.take front.length ++ name :: names.drop (front.length + 1) := by
    rw [← hname, List.getElem_cons_drop, List.take_append_drop]
  conv_lhs => rw [hsplit]
  rw [List.zip_append (by simp; omega), List.zip_cons_cons]

/-- **A respelt record** is read as it was before. -/
theorem shape_iff_of_respelt {fields : Fields α} (hfields : fields.Respects alike)
    (expected : String) {v w : Value} (h : Respelt fields.names alike v w) (a : α) :
    fields.shape expected v = .ok a ↔ fields.shape expected w = .ok a := by
  -- each way of respelling keeps what is looked up under the names of the fields
  induction h with
  | permuted keys perm =>
    rw [Fields.shape_table_eq_ok_iff, Fields.shape_table_eq_ok_iff]
    exact hfields (fun name _ => .inl (lookup_perm perm keys name)) a
  | foreign _ key_not =>
    rw [Fields.shape_table_eq_ok_iff, Fields.shape_table_eq_ok_iff]
    exact hfields (fun name hname =>
      .inl (lookup_foreign (ne_of_mem_of_not_mem hname key_not) _ _ _)) a
  | listed => rw [Fields.shape_table_eq_ok_iff, Fields.shape_array_eq_ok_iff]
  | @surplus values more length_eq =>
    have hzip : fields.names.zip (values ++ more) = fields.names.zip values := by
      conv_lhs => rw [← List.append_nil fields.names]
      rw [List.zip_append length_eq.symm, List.zip_nil_left, List.append_nil]
    rw [Fields.shape_array_eq_ok_iff, Fields.shape_array_eq_ok_iff, hzip]
  | field _ halike =>
    rw [Fields.shape_table_eq_ok_iff, Fields.shape_table_eq_ok_iff]
    exact hfields (fun name _ => holdsAlike_of_alike halike _ _ name) a
  | item position halike =>
    obtain ⟨before, after, hzip⟩ := zip_append_cons position
    rw [Fields.shape_array_eq_ok_iff, Fields.shape_array_eq_ok_iff, hzip, hzip]
    exact hfields (fun name _ => holdsAlike_of_alike halike _ _ name) a
  | refl => rfl
  | symm _ ih => exact ih.symm
  | trans _ _ ih₁ ih₂ => exact ih₁.trans ih₂

/-! ## Lists of records -/

/-- Two lists, however they are written, whose items are respelt one by one. -/
def ListsAlike (respelt : Value → Value → Prop) (v w : Value) : Prop :=
  ∃ items others, v.items? = some items ∧ w.items? = some others ∧
    List.Forall₂ respelt items others

theorem forall₂_iff_of_forall₂ {β γ : Type} {R : α → β → Prop} {P : α → γ → Prop}
    {Q : β → γ → Prop} (hR : ∀ a b, R a b → ∀ c, P a c ↔ Q b c) {as : List α} {bs : List β}
    (h : List.Forall₂ R as bs) (cs : List γ) : List.Forall₂ P as cs ↔ List.Forall₂ Q bs cs := by
  induction h generalizing cs with
  | nil => simp
  | cons hab _ ih =>
    simp only [List.forall₂_cons_left_iff, hR _ _ hab, ih]

theorem listOf_iff_of_listsAlike {shape : Shape α} {respelt : Value → Value → Prop}
    (hshape : ∀ v w, respelt v w → ∀ a, shape v = .ok a ↔ shape w = .ok a) {v w : Value}
    (h : ListsAlike respelt v w) (as : List α) :
    listOf shape v = .ok as ↔ listOf shape w = .ok as := by
  obtain ⟨items, others, hv, hw, hitems⟩ := h
  simp only [listOf, hv, hw, mapM_eq_ok_iff]
  exact forall₂_iff_of_forall₂ hshape hitems as

end Schema

open Schema

/-! ## Columns -/

namespace ColumnEntry

/-- Two spellings of one column. The values of its fields are plain and have one spelling each. -/
def Respelt : Value → Value → Prop := Schema.Respelt fieldNames fun _ _ _ => False

theorem respects_fields : fields.Respects fun _ _ _ => False :=
  have hone {α : Type} {name : String} {otherwise : Except FieldFailure α} {shape : Shape α} :
      (Fields.one name otherwise shape).Respects fun _ _ _ => False :=
    Fields.respects_one fun _ _ h => h.elim
  ((((((((((((hone.map ColumnEntry.mk).seq hone).seq hone).seq hone).seq hone).seq hone).seq
    hone).seq hone).seq hone).seq hone).seq hone).seq hone).seq hone

theorem shape_iff_of_respelt {v w : Value} (h : Respelt v w) (e : ColumnEntry) :
    shape v = .ok e ↔ shape w = .ok e :=
  Schema.shape_iff_of_respelt respects_fields _ h e

end ColumnEntry

/-! ## Tables -/

namespace TableEntry

/-- Two spellings of one table. Its columns may be respelt as well. -/
def Respelt : Value → Value → Prop :=
  Schema.Respelt fieldNames fun name v w => name = "columns" ∧ ListsAlike ColumnEntry.Respelt v w

theorem respects_fields : fields.Respects fun name v w =>
    name = "columns" ∧ ListsAlike ColumnEntry.Respelt v w := by
  unfold fields
  refine .seq (.seq (.seq (.map ?name _) ?model) ?comment) ?columns
  case columns =>
    exact Fields.respects_one fun _ _ h =>
      listOf_iff_of_listsAlike (fun _ _ hrow => ColumnEntry.shape_iff_of_respelt hrow) h.2
  all_goals exact Fields.respects_one fun _ _ h => absurd h.1 (by decide)

theorem shape_iff_of_respelt {v w : Value} (h : Respelt v w) (e : TableEntry) :
    shape v = .ok e ↔ shape w = .ok e :=
  Schema.shape_iff_of_respelt respects_fields _ h e

end TableEntry

/-! ## Manifests -/

namespace Manifest

/-- Two spellings of one manifest: its tables may be respelt. -/
def Respelt (entries others : List (String × Value)) : Prop :=
  Schema.Respelt fieldNames (fun name v w => name = "tables" ∧ ListsAlike TableEntry.Respelt v w)
    (.table entries) (.table others)

theorem respects_fields : fields.Respects fun name v w =>
    name = "tables" ∧ ListsAlike TableEntry.Respelt v w := by
  unfold fields
  refine .seq (.map ?space _) ?tables
  case tables =>
    exact Fields.respects_one fun _ _ h =>
      listOf_iff_of_listsAlike (fun _ _ hrow => TableEntry.shape_iff_of_respelt hrow) h.2
  case space => exact Fields.respects_one fun _ _ h => absurd h.1 (by decide)

variable {entries others : List (String × Value)}

/-- **A respelt manifest** is read as it was before, whichever of its tables and of their columns
are respelt and in whatever ways. What it is read as is what is given under the names of the fields,
in a table as in a list, and the defaults where nothing is given. -/
theorem ofEntries_of_respelt (h : Respelt entries others) :
    (∀ m, fields.ofEntries entries = .ok m ↔ fields.ofEntries others = .ok m) ∧
    (∀ m, fields.ofEntries entries = .ok m ↔ m.GivenBy entries) ∧
    (∀ v e, TableEntry.shape v = .ok e ↔
      ∃ given, Fields.namedIn TableEntry.fieldNames v = some given ∧ e.GivenBy given) ∧
    ∀ v e, ColumnEntry.shape v = .ok e ↔
      ∃ given, Fields.namedIn ColumnEntry.fieldNames v = some given ∧ e.GivenBy given := by
  refine ⟨fun m => ?_, fun _ => ofEntries_iff, fun _ _ => TableEntry.shape_iff,
    fun _ _ => ColumnEntry.shape_iff⟩
  exact shape_iff_of_respelt respects_fields "struct ManifestFile" h m

/-- A table of orders with one column, whose keys are out of order and one of which is foreign. -/
def ordersInTables : List (String × Value) :=
  [("tables", .tables [[("name", .string "orders"), ("model", .string "Order"),
    ("comment", .string "All orders"), ("columns", .tables
      [[("type", .string "INT"), ("note", .boolean true), ("name", .string "id")]])]])]

/-- The same table and column as lists, the table with one item too many. -/
def ordersInLists : List (String × Value) :=
  [("tables", .array [.array [.string "orders", .string "Order", .string "All orders",
    .array [.array [.string "id", .string "INT"]], .boolean true]])]

theorem respelt_orders : Respelt ordersInTables ordersInLists := by
  have hcolumn : ColumnEntry.Respelt
      (.table [("type", .string "INT"), ("note", .boolean true), ("name", .string "id")])
      (.array [.string "id", .string "INT"]) := by
    refine .trans (v := .table [("type", .string "INT"), ("name", .string "id")]) ?_ ?_
    · exact .symm (.foreign [_] (by decide))
    refine .trans (v := .table [("name", .string "id"), ("type", .string "INT")]) ?_ ?_
    · exact .permuted (by decide) (.swap ..)
    · exact .listed [_, _] (by decide)
  refine .field [] ⟨rfl, _, _, rfl, rfl, .cons ?_ .nil⟩
  refine .trans (v := .table [("name", .string "orders"), ("model", .string "Order"),
    ("comment", .string "All orders"), ("columns", .array [.array [.string "id", .string "INT"]])])
    ?_ ?_
  · exact .field [_, _, _] ⟨rfl, _, _, rfl, rfl, .cons hcolumn .nil⟩
  · exact .trans (.listed [_, _, _, _] (by decide)) (.surplus rfl)

theorem ofEntries_of_respelt_orders : fields.ofEntries ordersInLists =
    .ok { tables := [{
      name := "orders", model := some "Order", comment := some "All orders"
      columns := [{ name := "id", rawType := "INT" }] }] } :=
  ((ofEntries_of_respelt respelt_orders).1 _).mp rfl

end Manifest

end AnnotatedEntity
