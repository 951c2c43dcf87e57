/-
Options as a document gives them. A document may hold a value for any of the nine options, each in
its plain form, and whatever else under other keys. It is then always read; the options it gives
have the values that it gives, those it leaves out have their defaults, and nothing else in it
counts (`load_of_writtenIn`).
-/
import AnnotatedEntity.Loading
import AnnotatedEntity.Proofs.Fields
import Mathlib

namespace AnnotatedEntity

open Schema

open Toml (Value)

/-! ## Type mappings -/

namespace TypeMappings

theorem lookup_insertPair (raw : String) (mapped : MappedType) (k : String) :
    ∀ pairs : List (String × MappedType), (insertPair raw mapped pairs).lookup k =
      if k = raw then some mapped else pairs.lookup k
  | [] => by simp only [insertPair, lookup_cons_eq_ite]
  | (r, m) :: rest => by
    have ih := lookup_insertPair raw mapped k rest
    rw [insertPair]
    split
    next heq => by_cases h : k = raw <;> simp [lookup_cons_eq_ite, h, ← heq]
    next hne =>
      split
      · simp only [lookup_cons_eq_ite]
      · simp only [lookup_cons_eq_ite, ih]
        by_cases h : k = raw <;> simp [h, hne]

theorem lookup_foldl_insert (k : String) : ∀ (pairs : List (String × MappedType))
    (ms : TypeMappings),
    (pairs.foldl (fun ms (raw, mapped) => insert raw mapped ms) ms).pairs.lookup k =
      (pairs.reverse.lookup k).or (ms.pairs.lookup k)
  | [], _ => by simp
  | (raw, mapped) :: rest, ms => by
    have hinsert : (insert raw mapped ms).pairs = insertPair raw mapped ms.pairs := rfl
    rw [List.foldl_cons, lookup_foldl_insert k rest, List.reverse_cons, List.lookup_append,
      Option.or_assoc, hinsert, lookup_insertPair, lookup_cons_eq_ite]
    by_cases h : k = raw <;> simp [h]

/-- A raw type stands for what the last pair says of it. -/
theorem lookup_ofPairs (k : String) (pairs : List (String × MappedType)) :
    (ofPairs pairs).pairs.lookup k = pairs.reverse.lookup k := by
  rw [ofPairs, lookup_foldl_insert]
  simp [empty]

end TypeMappings

/-! ## Plain values -/

namespace Schema

variable {α β γ : Type}

theorem count_natural (n : Nat) : count (.integer n) = .ok n := by
  simp [count]

theorem listOf_map {shape : Shape β} {plain : α → Value} {result : α → β}
    (h : ∀ a, shape (plain a) = .ok (result a)) (as : List α) :
    listOf shape (.array (as.map plain)) = .ok (as.map result) := by
  show (as.map plain).mapM shape = _
  rw [mapM_eq_ok_iff, List.forall₂_map_left_iff, List.forall₂_map_right_iff]
  exact List.forall₂_same.mpr fun a _ => h a

theorem entriesOf_map {shape : Shape β} {plain : α → Value} {result : α → β}
    (h : ∀ a, shape (plain a) = .ok (result a)) (entries : List (String × α)) :
    entriesOf shape (.table (entries.map fun p => (p.1, plain p.2))) =
      .ok (entries.map fun p => (p.1, result p.2)) := by
  show (entries.map _).mapM _ = _
  rw [mapM_eq_ok_iff, List.forall₂_map_left_iff, List.forall₂_map_right_iff]
  refine List.forall₂_same.mpr fun p _ => ?_
  simp only [h, bind, Except.bind, pure, Except.pure]

/-- A field whose value is plain, or that is not given. -/
theorem Fields.read_withDefault {name : String} {default : α} {shape : Shape α} {plain : γ → Value}
    {result : γ → α} {entries : List (String × Value)} {x : Option γ}
    (hlookup : entries.lookup name = x.map plain)
    (hshape : ∀ c, shape (plain c) = .ok (result c)) :
    (withDefault name default shape).read entries = .ok ((x.map result).getD default) := by
  cases x with
  | none => exact read_one_of_none hlookup
  | some c => exact (read_one_of_some hlookup).mpr (hshape c)

theorem Fields.read_withDefault_self {name : String} {default : α} {shape : Shape α}
    {plain : α → Value} {entries : List (String × Value)} {x : Option α}
    (hlookup : entries.lookup name = x.map plain) (hshape : ∀ a, shape (plain a) = .ok a) :
    (withDefault name default shape).read entries = .ok (x.getD default) := by
  have h : (withDefault name default shape).read entries = .ok ((x.map id).getD default) :=
    read_withDefault hlookup hshape
  rwa [Option.map_id] at h

end Schema

/-! ## Documents -/

/-- What a document gives of the options: for each of them a value or nothing. -/
structure GivenOptions where
  generatedValueStrategy : Option String := none
  propertyTypehint : Option Bool := none
  tagPrefix : Option String := none
  quoteStrategy : Option QuoteStrategy := none
  nullableMode : Option NullableMode := none
  entityNamespace : Option String := none
  indentation : Option Nat := none
  typehintClasses : Option (List String) := none
  /-- Raw types with the names of mapped types. -/
  typeMappings : Option (List (String × String)) := none

namespace GivenOptions

/-- The document holds each option that is given as a plain value under its own key, and holds no
other option. -/
structure WrittenIn (entries : List (String × Value)) (given : GivenOptions) : Prop where
  generatedValueStrategy :
    entries.lookup "generated_value_strategy" = given.generatedValueStrategy.map .string
  propertyTypehint : entries.lookup "property_typehint" = given.propertyTypehint.map .boolean
  tagPrefix : entries.lookup "annotation_prefix" = given.tagPrefix.map .string
  quoteStrategy :
    entries.lookup "quote_identifier_strategy" = given.quoteStrategy.map fun q => .string q.name
  nullableMode :
    entries.lookup "nullable_attribute" = given.nullableMode.map fun mode => .string mode.name
  entityNamespace : entries.lookup "entity_namespace" = given.entityNamespace.map .string
  indentation : entries.lookup "indentation" = given.indentation.map fun n => .integer n
  typehintClasses :
    entries.lookup "typehint_classes" = given.typehintClasses.map fun cs => .array (cs.map .string)
  typeMappings : entries.lookup "type_mappings" =
    given.typeMappings.map fun pairs => .table (pairs.map fun p => (p.1, .string p.2))

/-- The pairs of a raw type and the mapped type of a name. -/
def mappings (pairs : List (String × String)) : TypeMappings :=
  .ofPairs (pairs.map fun p => (p.1, MappedType.ofName p.2))

/-- The options that are given, and the defaults of those that are not. -/
def options (given : GivenOptions) : Options :=
  let d : Options := {}
  { generatedValueStrategy := given.generatedValueStrategy.getD d.generatedValueStrategy
    propertyTypehint := given.propertyTypehint.getD d.propertyTypehint
    tagPrefix := given.tagPrefix.getD d.tagPrefix
    quoteStrategy := given.quoteStrategy.getD d.quoteStrategy
    nullableMode := given.nullableMode.getD d.nullableMode
    entityNamespace := given.entityNamespace.getD d.entityNamespace
    indentation := given.indentation.getD d.indentation
    typehintClasses := given.typehintClasses.getD d.typehintClasses
    typeMappings := (given.typeMappings.map mappings).getD d.typeMappings }

end GivenOptions

namespace Options

theorem mappings_shape (pairs : List (String × String)) :
    (TypeMappings.ofPairs <$> entriesOf mappedTypeName
      (.table (pairs.map fun p => (p.1, .string p.2)))) = .ok (GivenOptions.mappings pairs) := by
  have hname (s : String) : mappedTypeName (.string s) = .ok (MappedType.ofName s) := rfl
  rw [entriesOf_map hname]
  rfl

theorem choice_quote (q : QuoteStrategy) :
    choice QuoteStrategy.all QuoteStrategy.name (.string q.name) = .ok q := by
  cases q <;> rfl

theorem choice_nullable (mode : NullableMode) :
    choice NullableMode.all NullableMode.name (.string mode.name) = .ok mode := by
  cases mode <;> rfl

variable {given : GivenOptions} {entries : List (String × Value)}

theorem read_fields_of_writtenIn (h : given.WrittenIn entries) :
    fields.read entries = .ok given.options := by
  have htext : ∀ s, text (.string s) = .ok s := fun _ => rfl
  unfold fields GivenOptions.options
  refine Fields.read_seq (Fields.read_seq (Fields.read_seq (Fields.read_seq (Fields.read_seq
    (Fields.read_seq (Fields.read_seq (Fields.read_seq (Fields.read_map Options.mk ?strategy)
      ?hints) ?start) ?quote) ?nullable) ?space) ?indentation) ?classes) ?mappings
  case strategy => exact Fields.read_withDefault_self h.generatedValueStrategy htext
  case hints => exact Fields.read_withDefault_self h.propertyTypehint fun _ => rfl
  case start => exact Fields.read_withDefault_self h.tagPrefix htext
  case quote => exact Fields.read_withDefault_self h.quoteStrategy choice_quote
  case nullable => exact Fields.read_withDefault_self h.nullableMode choice_nullable
  case space => exact Fields.read_withDefault_self h.entityNamespace htext
  case indentation => exact Fields.read_withDefault_self h.indentation count_natural
  case classes =>
    refine Fields.read_withDefault_self h.typehintClasses fun cs => ?_
    have hclasses : listOf text (.array (cs.map .string)) = .ok (cs.map id) := listOf_map htext cs
    rwa [List.map_id] at hclasses
  case mappings => exact Fields.read_withDefault h.typeMappings mappings_shape

/-- **Options from a document** that holds each of them as a plain value or not at all. They are
loaded, with the values that the document gives and else the defaults, whatever else stands in it
and in whatever order. A raw type is mapped to what its name in the document stands for, under the
very key that it has there; of a key that stands twice the last one would count. -/
theorem load_of_writtenIn {files : Files} {path : String} (hdoc : files.document path = .ok entries)
    (h : given.WrittenIn entries) :
    Options.load files path = .ok given.options ∧
    ∀ raw, given.options.typeMappings.pairs.lookup raw =
      ((given.typeMappings.getD []).reverse.lookup raw).map MappedType.ofName := by
  constructor
  · have hread := Fields.ofEntries_eq_ok_iff.mpr (read_fields_of_writtenIn h)
    simp only [Options.load, Files.load, hdoc, hread, bind, Except.bind]
  · intro raw
    cases hm : given.typeMappings with
    | none => simp [GivenOptions.options, hm, TypeMappings.empty]
    | some pairs =>
      simp only [GivenOptions.options, hm, Option.map_some, Option.getD_some, GivenOptions.mappings,
        TypeMappings.lookup_ofPairs, ← List.map_reverse, lookup_map_snd]

/-- Two options in a file, behind a key that is none. -/
def narrowFile : Files := fun _ =>
  .ok "note = 1\nindentation = 2\n[type_mappings]\nUUID = \"guid\"\n".toUTF8

def narrowEntries : List (String × Value) :=
  [("note", .integer 1), ("indentation", .integer 2),
    ("type_mappings", .table [("UUID", .string "guid")])]

theorem load_of_writtenIn_narrow : Options.load narrowFile "narrow.toml" =
    .ok { indentation := 2, typeMappings := .ofPairs [("UUID", .guid)] } := by
  have hdoc : narrowFile.document "narrow.toml" = .ok narrowEntries := by cbv
  have hwritten : GivenOptions.WrittenIn narrowEntries
      { indentation := some 2, typeMappings := some [("UUID", "guid")] } :=
    ⟨rfl, rfl, rfl, rfl, rfl, rfl, rfl, rfl, rfl⟩
  exact (load_of_writtenIn hdoc hwritten).1

end Options

end AnnotatedEntity
