/-
Manifests as documents give them. A column, a table or a manifest is read from a value if and only
if it is what the value gives (`ColumnEntry.shape_iff`, `TableEntry.shape_iff`,
`Manifest.ofEntries_iff`): the value of each field stands under the name of the field, and where
nothing stands under a name its field has the default.
-/
import AnnotatedEntity.Proofs.Fields
import AnnotatedEntity.Schema.Documents

namespace AnnotatedEntity

open Schema

open Toml (Value)

variable {given : List (String × Value)}

/-! ## Columns -/

namespace ColumnEntry

def fieldNames : List String :=
  ["name", "type", "default", "comment", "primary", "auto_increment", "ignore", "unsigned",
    "nullable", "nullable_required", "length", "precision", "scale"]

theorem names_fields : fields.names = fieldNames := rfl

/-- The column that named values give. -/
structure GivenBy (given : List (String × Value)) (e : ColumnEntry) : Prop where
  name : given.lookup "name" = some (.string e.name)
  rawType : given.lookup "type" = some (.string e.rawType)
  storedDefault : given.lookup "default" = e.storedDefault.map .string
  comment : given.lookup "comment" = e.comment.map .string
  primary : (given.lookup "primary").getD (.boolean false) = .boolean e.primary
  autoIncrement : (given.lookup "auto_increment").getD (.boolean false) = .boolean e.autoIncrement
  ignore : (given.lookup "ignore").getD (.boolean false) = .boolean e.ignore
  unsigned : (given.lookup "unsigned").getD (.boolean false) = .boolean e.unsigned
  nullable : (given.lookup "nullable").getD (.boolean false) = .boolean e.nullable
  nullableRequired : given.lookup "nullable_required" = e.nullableRequired.map .boolean
  length : given.lookup "length" = e.length.map .integer
  precision : given.lookup "precision" = e.precision.map .integer
  scale : given.lookup "scale" = e.scale.map .integer

variable {e : ColumnEntry}

theorem read_fields_iff : fields.read given = .ok e ↔ e.GivenBy given := by
  simp only [fields, Fields.read_seq_eq_ok_iff, Fields.read_map_eq_ok_iff,
    Fields.read_required_iff text_eq_ok_iff, Fields.read_optional_iff text_eq_ok_iff,
    Fields.read_withDefault_iff flag_eq_ok_iff, Fields.read_optional_iff flag_eq_ok_iff,
    Fields.read_optional_iff number_eq_ok_iff]
  constructor
  -- the fields are peeled off from the last one to the first
  · rintro ⟨_, _, ⟨_, _, ⟨_, _, ⟨_, _, ⟨_, _, ⟨_, _, ⟨_, _, ⟨_, _, ⟨_, _, ⟨_, _, ⟨_, _, ⟨_, _,
      ⟨_, hname, rfl⟩, htype, rfl⟩, hdefault, rfl⟩, hcomment, rfl⟩, hprimary, rfl⟩, hauto, rfl⟩,
      hignore, rfl⟩, hunsigned, rfl⟩, hnullable, rfl⟩, hrequired, rfl⟩, hlength, rfl⟩,
      hprecision, rfl⟩, hscale, rfl⟩
    exact ⟨hname, htype, hdefault, hcomment, hprimary, hauto, hignore, hunsigned, hnullable,
      hrequired, hlength, hprecision, hscale⟩
  · rintro ⟨hname, htype, hdefault, hcomment, hprimary, hauto, hignore, hunsigned, hnullable,
      hrequired, hlength, hprecision, hscale⟩
    exact ⟨_, _, ⟨_, _, ⟨_, _, ⟨_, _, ⟨_, _, ⟨_, _, ⟨_, _, ⟨_, _, ⟨_, _, ⟨_, _, ⟨_, _, ⟨_, _,
      ⟨_, hname, rfl⟩, htype, rfl⟩, hdefault, rfl⟩, hcomment, rfl⟩, hprimary, rfl⟩, hauto, rfl⟩,
      hignore, rfl⟩, hunsigned, rfl⟩, hnullable, rfl⟩, hrequired, rfl⟩, hlength, rfl⟩,
      hprecision, rfl⟩, hscale, rfl⟩

theorem shape_iff {v : Value} : shape v = .ok e ↔
    ∃ given, Fields.namedIn fieldNames v = some given ∧ e.GivenBy given := by
  rw [shape, Fields.shape_eq_ok_iff, names_fields]
  simp only [read_fields_iff]

end ColumnEntry

/-! ## Tables -/

namespace TableEntry

def fieldNames : List String := ["name", "model", "comment", "columns"]

theorem names_fields : fields.names = fieldNames := rfl

/-- The table that named values give. -/
structure GivenBy (given : List (String × Value)) (e : TableEntry) : Prop where
  name : given.lookup "name" = some (.string e.name)
  model : given.lookup "model" = e.model.map .string
  comment : given.lookup "comment" = e.comment.map .string
  columns : ∃ items, ((given.lookup "columns").getD (.array [])).items? = some items ∧
    List.Forall₂ (fun v c => ColumnEntry.shape v = .ok c) items e.columns

variable {e : TableEntry}

theorem read_fields_iff : fields.read given = .ok e ↔ e.GivenBy given := by
  simp only [fields, Fields.read_seq_eq_ok_iff, Fields.read_map_eq_ok_iff,
    Fields.read_required_iff text_eq_ok_iff, Fields.read_optional_iff text_eq_ok_iff,
    Fields.read_listOf_iff]
  constructor
  · rintro ⟨_, _, ⟨_, _, ⟨_, _, ⟨_, hname, rfl⟩, hmodel, rfl⟩, hcomment, rfl⟩, hcolumns, rfl⟩
    exact ⟨hname, hmodel, hcomment, hcolumns⟩
  · rintro ⟨hname, hmodel, hcomment, hcolumns⟩
    exact ⟨_, _, ⟨_, _, ⟨_, _, ⟨_, hname, rfl⟩, hmodel, rfl⟩, hcomment, rfl⟩, hcolumns, rfl⟩

theorem shape_iff {v : Value} : shape v = .ok e ↔
    ∃ given, Fields.namedIn fieldNames v = some given ∧ e.GivenBy given := by
  rw [shape, Fields.shape_eq_ok_iff, names_fields]
  simp only [read_fields_iff]

end TableEntry

/-! ## Manifests -/

namespace Manifest

def fieldNames : List String := ["namespace", "tables"]

theorem names_fields : fields.names = fieldNames := rfl

/-- The manifest that named values give. -/
structure GivenBy (given : List (String × Value)) (m : Manifest) : Prop where
  entityNamespace : given.lookup "namespace" = m.entityNamespace.map .string
  tables : ∃ items, ((given.lookup "tables").getD (.array [])).items? = some items ∧
    List.Forall₂ (fun v t => TableEntry.shape v = .ok t) items m.tables

variable {m : Manifest}

theorem ofEntries_iff : fields.ofEntries given = .ok m ↔ m.GivenBy given := by
  rw [Fields.ofEntries_eq_ok_iff]
  simp only [fields, Fields.read_seq_eq_ok_iff, Fields.read_map_eq_ok_iff,
    Fields.read_optional_iff text_eq_ok_iff, Fields.read_listOf_iff]
  constructor
  · rintro ⟨_, _, ⟨_, hspace, rfl⟩, htables, rfl⟩
    exact ⟨hspace, htables⟩
  · rintro ⟨hspace, htables⟩
    exact ⟨_, _, ⟨_, hspace, rfl⟩, htables, rfl⟩

end Manifest

end AnnotatedEntity
