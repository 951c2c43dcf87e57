/-
The formatter's options and their defaults.
-/
import AnnotatedEntity.MappedType

namespace AnnotatedEntity

/-! ## Modes -/

/-- Which column names are written between back quotes: the reserved words, all, or none. -/
inductive QuoteStrategy where
  | auto
  | always
  | never
deriving Repr, DecidableEq, Inhabited

namespace QuoteStrategy

def name : QuoteStrategy → String
  | auto => "auto"
  | always => "always"
  | never => "none"

def all : List QuoteStrategy := [auto, always, never]

/-- The strategy of this very name. -/
def ofName? (s : String) : Option QuoteStrategy := all.find? (·.name == s)

/-- The strategy of this name in any case. -/
def ofText? (s : String) : Option QuoteStrategy := ofName? (Text.onString Text.lower s)

/-- What is said of a text that names no strategy. -/
def unknownMessage (s : String) : String := "Unknown quote strategy: " ++ s

end QuoteStrategy

/-- Which columns say whether they are nullable: the nullable ones or all. -/
inductive NullableMode where
  | auto
  | always
deriving Repr, DecidableEq, Inhabited

namespace NullableMode

def name : NullableMode → String
  | auto => "auto"
  | always => "always"

def all : List NullableMode := [auto, always]

def ofName? (s : String) : Option NullableMode := all.find? (·.name == s)

def requires : NullableMode → Bool → Bool
  | auto, nullable => nullable
  | always, _ => true

end NullableMode

/-! ## Type mappings -/

/-- Raw types and what they are mapped to, in ascending order of the raw types, each once. -/
structure TypeMappings where
  pairs : List (String × MappedType)
  ascending : pairs.Pairwise (·.1 < ·.1)
deriving Repr, DecidableEq

namespace TypeMappings

def empty : TypeMappings := ⟨[], .nil⟩

instance : Inhabited TypeMappings := ⟨empty⟩

/-- A list of pairs with a raw type mapped, in place of what it was mapped to before. -/
def insertPair (raw : String) (mapped : MappedType) :
    List (String × MappedType) → List (String × MappedType)
  | [] => [(raw, mapped)]
  | (r, m) :: rest =>
    if raw = r then (raw, mapped) :: rest
    else if raw < r then (raw, mapped) :: (r, m) :: rest
    else (r, m) :: insertPair raw mapped rest

theorem fst_of_mem_insertPair {raw : String} {mapped : MappedType} {q : String × MappedType} :
    ∀ {pairs}, q ∈ insertPair raw mapped pairs → q.1 = raw ∨ q ∈ pairs
  | [], h => by simp only [insertPair, List.mem_singleton] at h; exact .inl (by rw [h])
  | (r, m) :: rest, h => by
    simp only [insertPair] at h
    split at h
    · rcases List.mem_cons.mp h with rfl | h
      · exact .inl rfl
      · exact .inr (List.mem_cons_of_mem _ h)
    split at h
    · rcases List.mem_cons.mp h with rfl | h
      · exact .inl rfl
      · exact .inr h
    · rcases List.mem_cons.mp h with rfl | h
      · exact .inr List.mem_cons_self
      · exact (fst_of_mem_insertPair h).imp_right (List.mem_cons_of_mem _)

theorem ascending_insertPair {raw : String} {mapped : MappedType} :
    ∀ {pairs : List (String × MappedType)}, pairs.Pairwise (·.1 < ·.1) →
      (insertPair raw mapped pairs).Pairwise (·.1 < ·.1)
  | [], _ => by simp [insertPair]
  | (r, m) :: rest, h => by
    obtain ⟨hr, hrest⟩ := List.pairwise_cons.mp h
    simp only [insertPair]
    split
    next heq => exact List.pairwise_cons.mpr ⟨fun q hq => heq ▸ hr q hq, hrest⟩
    split
    next hlt =>
      refine List.pairwise_cons.mpr ⟨fun q hq => ?_, h⟩
      rcases List.mem_cons.mp hq with rfl | hq
      · exact hlt
      · exact Std.lt_trans hlt (hr q hq)
    next hne hlt =>
      refine List.pairwise_cons.mpr ⟨fun q hq => ?_, ascending_insertPair hrest⟩
      rcases fst_of_mem_insertPair hq with heq | hq
      · rw [heq]; exact Std.lt_of_le_of_ne (Std.not_lt.mp hlt) (Ne.symm hne)
      · exact hr q hq

/-- Maps a raw type, in place of what it was mapped to before. -/
def insert (raw : String) (mapped : MappedType) (ms : TypeMappings) : TypeMappings where
  pairs := insertPair raw mapped ms.pairs
  ascending := ascending_insertPair ms.ascending

def ofPairs (pairs : List (String × MappedType)) : TypeMappings :=
  pairs.foldl (fun ms (raw, mapped) => insert raw mapped ms) empty

/-- What a function makes of the mappings, in their order. -/
def map {α : Type} (ms : TypeMappings) (f : String × MappedType → α) : List α := ms.pairs.map f

end TypeMappings

/-! ## Options -/

structure Options where
  generatedValueStrategy : String := "auto"
  propertyTypehint : Bool := false
  tagPrefix : String := "ORM\\"
  quoteStrategy : QuoteStrategy := .auto
  nullableMode : NullableMode := .auto
  entityNamespace : String := "App\\Entity"
  indentation : Nat := 4
  typehintClasses : List String := []
  typeMappings : TypeMappings := .empty
deriving Repr, DecidableEq, Inhabited

/-- The strategy as its tag writes it, in capitals. -/
def Options.strategyName (o : Options) : String :=
  Text.onString Text.upper o.generatedValueStrategy

end AnnotatedEntity
