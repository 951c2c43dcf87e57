/-
The two documents: options and manifest. What a document leaves out has its default.
-/
import AnnotatedEntity.Manifest
import AnnotatedEntity.Schema.Fields

namespace AnnotatedEntity

open Schema

open Schema.Fields (required withDefault optional)

/-! ## Options -/

/-- A mapped type, which any text names. -/
def mappedTypeName : Shape MappedType := fun v => MappedType.ofName <$> text v

def Options.fields : Fields Options :=
  let d : Options := {}
  Options.mk
    <$> withDefault "generated_value_strategy" d.generatedValueStrategy text
    <*> withDefault "property_typehint" d.propertyTypehint flag
    <*> withDefault "annotation_prefix" d.tagPrefix text
    <*> withDefault "quote_identifier_strategy" d.quoteStrategy
      (choice QuoteStrategy.all QuoteStrategy.name)
    <*> withDefault "nullable_attribute" d.nullableMode (choice NullableMode.all NullableMode.name)
    <*> withDefault "entity_namespace" d.entityNamespace text
    <*> withDefault "indentation" d.indentation count
    <*> withDefault "typehint_classes" d.typehintClasses (listOf text)
    <*> withDefault "type_mappings" d.typeMappings fun v =>
      TypeMappings.ofPairs <$> entriesOf mappedTypeName v

/-! ## Manifest -/

def ColumnEntry.fields : Fields ColumnEntry :=
  ColumnEntry.mk
    <$> required "name" text
    <*> required "type" text
    <*> optional "default" text
    <*> optional "comment" text
    <*> withDefault "primary" false flag
    <*> withDefault "auto_increment" false flag
    <*> withDefault "ignore" false flag
    <*> withDefault "unsigned" false flag
    <*> withDefault "nullable" false flag
    <*> optional "nullable_required" flag
    <*> optional "length" number
    <*> optional "precision" number
    <*> optional "scale" number

def ColumnEntry.shape : Shape ColumnEntry := ColumnEntry.fields.shape "struct ColumnEntry"

def TableEntry.fields : Fields TableEntry :=
  TableEntry.mk
    <$> required "name" text
    <*> optional "model" text
    <*> optional "comment" text
    <*> withDefault "columns" [] (listOf ColumnEntry.shape)

def TableEntry.shape : Shape TableEntry := TableEntry.fields.shape "struct TableEntry"

def Manifest.fields : Fields Manifest :=
  Manifest.mk
    <$> optional "namespace" text
    <*> withDefault "tables" [] (listOf TableEntry.shape)

end AnnotatedEntity
