/-
The table of raw types against the list of pairs it was made from: the built-in pairs, the options'
mappings in ascending order, and those that were registered by hand. A name stands for what the
last pair of that name says (`find?_ofOptions_registerAll`), where a raw type's own spelling has
been forgotten on both sides. What a column is mapped to follows from that list alone
(`mappedType_lastMapping`). The pair that was registered last decides for its own raw type, but
for flags, about which the table is not asked (`mappedType_register_iff`).
-/
import AnnotatedEntity.Proofs.RawType
import AnnotatedEntity.Proofs.Text.ByteOrder

namespace AnnotatedEntity

/-! ## Names that are normal already -/

namespace Text

/-- The character is a small letter of ASCII. -/
def isSmallLetter (c : Char) : Bool := 97 ≤ c.toNat && c.toNat ≤ 122

theorem toNat_of_isSmallLetter {c : Char} (h : isSmallLetter c = true) :
    97 ≤ c.toNat ∧ c.toNat ≤ 122 := by
  simpa [isSmallLetter] using h

theorem isBlank_eq_false_of_isSmallLetter {c : Char} (h : isSmallLetter c = true) :
    isBlank c = false := by
  have hc := toNat_of_isSmallLetter h
  exact isBlank_eq_false_of_graphic (by omega) (by omega)

theorem toLower_of_isSmallLetter {c : Char} (h : isSmallLetter c = true) : c.toLower = c := by
  have hc := toNat_of_isSmallLetter h
  have := toLower_ofNat c.toNat (by omega)
  rwa [Char.ofNat_toNat, if_neg (by omega)] at this

theorem lower_of_forall_isSmallLetter {s : List Char} (h : ∀ c ∈ s, isSmallLetter c = true) :
    lower s = s := by
  have hascii : ∀ c ∈ s, c.toNat < 128 := fun c hc => by
    have := toNat_of_isSmallLetter (h c hc)
    omega
  rw [lower_ascii hascii, List.map_congr_left fun c hc => toLower_of_isSmallLetter (h c hc)]
  exact List.map_id' s

end Text

/-- A name of small letters is its own normal form. -/
theorem RawType.name_ofString_of_small {s : String} (h : s.toList.all Text.isSmallLetter = true) :
    (RawType.ofString s).name = s := by
  rw [List.all_eq_true] at h
  have hne (x : Char) (hx : Text.isSmallLetter x = false) : x ∉ s.toList := fun hmem => by
    rw [h x hmem] at hx
    cases hx
  rw [RawType.ofString_of_isNormal {
    no_dot := hne '.' (by decide)
    no_paren := hne '(' (by decide)
    trimmed := Text.trim_of_forall_not_isBlank fun c hc =>
      Text.isBlank_eq_false_of_isSmallLetter (h c hc)
    small := Text.lower_of_forall_isSmallLetter h }]

/-! ## The last pair of a name -/

namespace TypeTable

/-- What the last pair says whose raw type has this normal name. -/
def lastMapping (name : String) (pairs : List (String × MappedType)) : Option MappedType :=
  (pairs.findRev? fun p => (RawType.ofString p.1).name == name).map (·.2)

theorem lastMapping_nil (name : String) : lastMapping name [] = none := rfl

theorem lastMapping_append (name : String) (pairs more : List (String × MappedType)) :
    lastMapping name (pairs ++ more) = (lastMapping name more).or (lastMapping name pairs) := by
  simp only [lastMapping, List.findRev?_eq_find?_reverse, List.reverse_append, List.find?_append,
    Option.map_or]

theorem lastMapping_singleton (name : String) (p : String × MappedType) : lastMapping name [p] =
    if (RawType.ofString p.1).name = name then some p.2 else none := by
  by_cases h : (RawType.ofString p.1).name = name <;> simp [lastMapping, h]

/-- Two pairs in the other order, which differ in their names, say the same of each name. -/
theorem lastMapping_swap (name : String) {p q : String × MappedType}
    (h : (RawType.ofString p.1).name ≠ (RawType.ofString q.1).name)
    (front back : List (String × MappedType)) :
    lastMapping name (front ++ q :: p :: back) = lastMapping name (front ++ p :: q :: back) := by
  have hpair : lastMapping name ([q] ++ [p]) = lastMapping name ([p] ++ [q]) := by
    simp only [lastMapping_append, lastMapping_singleton]
    by_cases hp : (RawType.ofString p.1).name = name
    · rw [if_pos hp, if_neg fun hq => h (hp.trans hq.symm), Option.or_none, Option.none_or]
    · rw [if_neg hp, Option.none_or, Option.or_none]
  rw [show q :: p :: back = ([q] ++ [p]) ++ back from rfl,
    show p :: q :: back = ([p] ++ [q]) ++ back from rfl]
  simp only [lastMapping_append name front, lastMapping_append name _ back, hpair]

/-! ## The table and its pairs -/

variable {table : TypeTable} {name : String}

theorem find?_register (raw : String) (mapped : MappedType) : (table.register raw mapped).find? name
    = if (RawType.ofString raw).name = name then some mapped else table.find? name := by
  by_cases h : (RawType.ofString raw).name = name <;> simp [find?, register, h]

theorem find?_registerAll (name : String) : ∀ (pairs : List (String × MappedType))
    (table : TypeTable),
    (table.registerAll pairs).find? name = (lastMapping name pairs).or (table.find? name)
  | [], _ => by simp [registerAll, lastMapping_nil]
  | p :: rest, table => by
    have ih := find?_registerAll name rest (table.register p.1 p.2)
    rw [find?_register] at ih
    rw [registerAll, List.foldl_cons, ← registerAll, ih, ← List.singleton_append,
      lastMapping_append, lastMapping_singleton]
    split <;> simp

theorem registerAll_append (pairs more : List (String × MappedType)) :
    table.registerAll (pairs ++ more) = (table.registerAll pairs).registerAll more :=
  List.foldl_append

/-! ## The built-in pairs -/

theorem builtin_small : ∀ p ∈ builtin, p.1.toList.all Text.isSmallLetter = true := by decide

theorem builtin_nodup : (builtin.map (·.1)).Nodup := by decide

/-- Where no two keys are equal, the first entry of a key is the last one. -/
theorem find?_eq_findRev? : ∀ {l : TypeTable}, (l.map (·.1)).Nodup →
    List.find? (·.1 == name) l = l.findRev? (·.1 == name)
  | [], _ => rfl
  | p :: l, h => by
    obtain ⟨hp, hl⟩ := List.nodup_cons.mp h
    rw [List.find?_cons, List.findRev?, ← find?_eq_findRev? hl]
    by_cases heq : p.1 = name
    · have hnone : List.find? (·.1 == name) l = none := by
        rw [List.find?_eq_none]
        intro q hq hqn
        exact hp (List.mem_map.mpr ⟨q, hq, (beq_iff_eq.mp hqn).trans heq.symm⟩)
      simp [heq, hnone]
    · simp only [beq_eq_false_iff_ne.mpr heq]
      cases List.find? (·.1 == name) l <;> rfl

/-- The built-in table is its own list of pairs: no name is spelt in two ways or occurs twice. -/
theorem find?_builtin (name : String) : builtin.find? name = lastMapping name builtin := by
  have hname : ∀ p ∈ builtin, (RawType.ofString p.1).name = p.1 := fun p hp =>
    RawType.name_ofString_of_small (builtin_small p hp)
  -- Names are normal here already, so that both look-ups ask for the same.
  have hpred : List.find? (fun p => (RawType.ofString p.1).name == name) builtin.reverse =
      List.find? (fun p => p.1 == name) builtin.reverse := by
    rw [← List.head?_filter, ← List.head?_filter]
    exact congrArg _ (List.filter_congr fun p hp => by rw [hname p (List.mem_reverse.mp hp)])
  rw [find?, find?_eq_findRev? builtin_nodup, lastMapping, List.findRev?_eq_find?_reverse,
    List.findRev?_eq_find?_reverse, hpred]

/-- A name stands for what the last of all pairs says. -/
theorem find?_ofOptions_registerAll (o : Options) (more : List (String × MappedType))
    (name : String) : ((ofOptions o).registerAll more).find? name =
      lastMapping name (builtin ++ o.typeMappings.pairs ++ more) := by
  rw [find?_registerAll, ofOptions, find?_registerAll, find?_builtin, lastMapping_append,
    lastMapping_append]

/-! ## Columns -/

theorem mappedType_ofTable (table : TypeTable) (c : Column) :
    (Converter.ofTable table).mappedType c = table.mappedType c := by
  simp only [Converter.ofTable]

theorem mappedType_congr {table' : TypeTable} (h : ∀ name, table'.find? name = table.find? name)
    (c : Column) : table'.mappedType c = table.mappedType c := by
  simp only [mappedType, h]

/-- A column that has a type keeps one when further pairs are registered. -/
theorem mappedType_registerAll_ok {c : Column} {mapped : MappedType}
    (h : table.mappedType c = .ok mapped) (extra : List (String × MappedType)) :
    ∃ mapped', (table.registerAll extra).mappedType c = .ok mapped' := by
  simp only [mappedType, find?_registerAll] at h ⊢
  split
  next => exact ⟨_, rfl⟩
  next hflag =>
    rw [if_neg hflag] at h
    cases hl : lastMapping (RawType.ofString c.rawType).name extra with
    | some m => exact ⟨m, rfl⟩
    | none => exact ⟨mapped, h⟩

/-- **What a column is mapped to**, under options and any pairs registered after them: a `tinyint`
of length one is a flag, and any other raw type is what the last pair of its normal name says in
the built-in pairs, the options' pairs in the order of their bytes, and the further ones. Further
pairs take no column's type away, and two neighbours of different names can be exchanged. -/
theorem mappedType_lastMapping (o : Options) (more : List (String × MappedType)) (c : Column) :
    let raw := RawType.ofString c.rawType
    let converter (more : List (String × MappedType)) :=
      Converter.ofTable ((ofOptions o).registerAll more)
    ((converter more).mappedType c =
      if raw.name = "tinyint" ∧ raw.length.or c.parameters.length = some 1 then .ok .boolean
      else
        match lastMapping raw.name (builtin ++ o.typeMappings.pairs ++ more) with
        | some mapped => .ok mapped
        | none => .error (.unknownRawType c.name c.rawType)) ∧
    (o.typeMappings.pairs.Pairwise fun p q => Text.bytes p.1 < Text.bytes q.1) ∧
    (∀ mapped extra, (converter more).mappedType c = .ok mapped →
      ∃ mapped', (converter (more ++ extra)).mappedType c = .ok mapped') ∧
    ∀ front p q back, more = front ++ p :: q :: back →
      (RawType.ofString p.1).name ≠ (RawType.ofString q.1).name →
      (converter (front ++ q :: p :: back)).mappedType c = (converter more).mappedType c := by
  intro raw converter
  have hconverter (more : List (String × MappedType)) :
      (converter more).mappedType c = ((ofOptions o).registerAll more).mappedType c :=
    mappedType_ofTable _ c
  refine ⟨?_, o.typeMappings.ascending.imp Text.bytes_lt_of_lt, fun mapped extra h => ?_,
    fun front p q back heq hne => ?_⟩
  · simp only [hconverter, mappedType, find?_ofOptions_registerAll]
    cases lastMapping raw.name (builtin ++ o.typeMappings.pairs ++ more) <;> rfl
  · rw [hconverter] at h ⊢
    rw [registerAll_append]
    exact mappedType_registerAll_ok h extra
  · rw [hconverter, hconverter]
    refine mappedType_congr (fun name => ?_) c
    rw [find?_registerAll, find?_registerAll, heq, lastMapping_swap name hne]

end TypeTable

/-! ## A pair that was registered last -/

/-- The column is stored as flags are: as a `tinyint` of length one, wherever the length stands. -/
def Column.IsFlag (c : Column) : Prop :=
  (RawType.ofString c.rawType).name = "tinyint" ∧
    (RawType.ofString c.rawType).length.or c.parameters.length = some 1

instance (c : Column) : Decidable c.IsFlag := inferInstanceAs (Decidable (_ ∧ _))

namespace TypeTable

variable {table : TypeTable} {c : Column}

/-- The table is not asked about flags. -/
theorem mappedType_of_isFlag (h : c.IsFlag) : table.mappedType c = .ok .boolean := by
  unfold Column.IsFlag at h
  rw [mappedType, if_pos h]

theorem mappedType_register_self (h : ¬ c.IsFlag) (mapped : MappedType) :
    (table.register c.rawType mapped).mappedType c = .ok mapped := by
  unfold Column.IsFlag at h
  rw [mappedType, if_neg h, find?_register, if_pos rfl]

/-- **A pair that was registered last** decides for the columns of its raw type, whatever the
options and the pairs before it say, unless the column is a flag and the pair makes it something
else. -/
theorem mappedType_register_iff (o : Options) (more : List (String × MappedType))
    (mapped : MappedType) (c : Column) :
    let table := ((ofOptions o).registerAll more).register c.rawType mapped
    (Converter.ofTable table).mappedType c = .ok mapped ↔ ¬ c.IsFlag ∨ mapped = .boolean := by
  intro table
  rw [mappedType_ofTable]
  by_cases h : c.IsFlag
  · rw [mappedType_of_isFlag h, Except.ok.injEq, or_iff_right (not_not_intro h), eq_comm]
  · exact iff_of_true (mappedType_register_self h mapped) (.inl h)

/-- A flag stays one, even where its own raw type is registered for something else. -/
theorem register_flag_in_vain : ¬ ∀ (o : Options) (more : List (String × MappedType)) (raw : String)
    (mapped : MappedType) (c : Column), c.rawType = raw →
      (Converter.ofTable (((ofOptions o).registerAll more).register raw mapped)).mappedType c =
        .ok mapped := by
  intro h
  have hflag : Column.IsFlag { name := "active", rawType := "TINYINT(1)" } := by decide +kernel
  have hmapped := h {} [] "TINYINT(1)" .smallInt { name := "active", rawType := "TINYINT(1)" } rfl
  rw [mappedType_ofTable, mappedType_of_isFlag hflag] at hmapped
  cases hmapped

end TypeTable

end AnnotatedEntity
