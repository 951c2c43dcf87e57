/-
The attributes of a column's tag. They fill a row of slots, which stands in one order whatever the
column is: a slot has its name, and a value or none (`attributes_eq_map`). What is in a slot
depends on the column, on its mapped type and on how its name is quoted, and on nothing else
(`attributes_eq_ok_iff`). A reader who takes a missing `nullable` for no learns what the manifest
says of the column, unless the manifest itself keeps the attribute away (`attributes_taggedBy`).
-/
import AnnotatedEntity.Manifest
import AnnotatedEntity.Rendering.Column

namespace AnnotatedEntity

/-! ## Slots -/

namespace Attributes

/-- Slots in turn, each with its name, and the value in it if there is one. -/
abbrev Slots := List (String × Option AttributeValue)

/-- The attributes of the slots that are filled. -/
def ofSlots (slots : Slots) : Attributes :=
  slots.filterMap fun (key, value) => value.map (key, ·)

variable {key : String} {slots : Slots} {as : Attributes}

theorem ofSlots_nil : ofSlots [] = [] := rfl

theorem ofSlots_cons_none : ofSlots ((key, none) :: slots) = ofSlots slots := rfl

theorem ofSlots_cons_some {v : AttributeValue} :
    ofSlots ((key, some v) :: slots) = (key, v) :: ofSlots slots := rfl

theorem ofSlots_cons {value : Option AttributeValue} : ofSlots ((key, value) :: slots) =
    (value.map (key, ·)).toList ++ ofSlots slots := by
  cases value <;> rfl

theorem mem_ofSlots_iff {p : String × AttributeValue} :
    p ∈ ofSlots slots ↔ (p.1, some p.2) ∈ slots := by
  simp only [ofSlots, List.mem_filterMap, Option.map_eq_some_iff]
  constructor
  · rintro ⟨⟨k, v⟩, hmem, w, rfl, rfl⟩
    exact hmem
  · exact fun hmem => ⟨_, hmem, p.2, rfl, rfl⟩

/-- Filled slots keep their order. -/
theorem keys_ofSlots_sublist : ∀ slots : Slots, (ofSlots slots).keys.Sublist (slots.map (·.1))
  | [] => .slnil
  | (key, none) :: slots => (keys_ofSlots_sublist slots).cons key
  | (key, some _) :: slots => (keys_ofSlots_sublist slots).cons_cons key

/-! ## Setting and reading attributes of distinct names -/

theorem insert_of_not_mem {v : AttributeValue} :
    ∀ {as : Attributes}, key ∉ as.keys → as.insert key v = as ++ [(key, v)]
  | [], _ => rfl
  | (k, w) :: as, h => by
    simp only [keys, List.map_cons, List.mem_cons, not_or] at h
    rw [insert, if_neg (Ne.symm h.1), insert_of_not_mem h.2, List.cons_append]

theorem foldl_insert_of_nodup : ∀ {pairs as : Attributes}, (as ++ pairs).keys.Nodup →
    pairs.foldl (fun as (k, v) => as.insert k v) as = as ++ pairs
  | [], as, _ => by simp
  | (k, v) :: pairs, as, h => by
    have hk : k ∉ as.keys := by
      simp only [keys, List.map_append, List.map_cons, List.nodup_append] at h
      exact fun hk => h.2.2 k hk k List.mem_cons_self rfl
    have hnodup : (as ++ [(k, v)] ++ pairs).keys.Nodup := by
      rwa [List.append_assoc, List.singleton_append]
    have ih := foldl_insert_of_nodup hnodup
    rw [← insert_of_not_mem hk] at ih
    rw [List.foldl_cons, ih, insert_of_not_mem hk, List.append_assoc, List.singleton_append]

/-- Attributes of distinct names are set as they come. -/
theorem ofPairs_of_nodup {pairs : List (String × AttributeValue)} (h : (keys pairs).Nodup) :
    ofPairs pairs = pairs :=
  have hempty : (empty ++ pairs).keys.Nodup := h
  foldl_insert_of_nodup hempty

theorem get?_cons_self {v : AttributeValue} : get? key ((key, v) :: as) = some v := if_pos rfl

theorem get?_cons_of_ne {k : String} {v : AttributeValue} (h : k ≠ key) :
    get? key ((k, v) :: as) = get? key as := if_neg h

theorem get?_of_not_mem : ∀ {as : Attributes}, key ∉ as.keys → as.get? key = none
  | [], _ => rfl
  | (k, v) :: as, h => by
    simp only [keys, List.map_cons, List.mem_cons, not_or] at h
    rw [get?_cons_of_ne (Ne.symm h.1), get?_of_not_mem h.2]

theorem not_mem_keys_ofSlots (h : key ∉ slots.map (·.1)) : key ∉ (ofSlots slots).keys :=
  fun hkey => h ((keys_ofSlots_sublist slots).subset hkey)

theorem ne_of_not_mem_names {p : String × Option AttributeValue} (hkey : key ∉ slots.map (·.1))
    (hp : p ∈ slots) : key ≠ p.1 :=
  fun heq => hkey (List.mem_map.mpr ⟨p, hp, heq.symm⟩)

/-- What is found under the name of a slot is what is in it. -/
theorem get?_ofSlots : ∀ {slots : Slots}, (slots.map (·.1)).Nodup →
    ∀ p ∈ slots, (ofSlots slots).get? p.1 = p.2
  | [], _, _, hp => by cases hp
  | (key, none) :: slots, hnodup, p, hp => by
    obtain ⟨hkey, hslots⟩ := List.nodup_cons.mp hnodup
    rw [ofSlots_cons_none]
    rcases List.mem_cons.mp hp with rfl | hp
    · exact get?_of_not_mem (not_mem_keys_ofSlots hkey)
    · exact get?_ofSlots hslots p hp
  | (key, some v) :: slots, hnodup, p, hp => by
    obtain ⟨hkey, hslots⟩ := List.nodup_cons.mp hnodup
    rw [ofSlots_cons_some]
    rcases List.mem_cons.mp hp with rfl | hp
    · exact get?_cons_self
    · rw [get?_cons_of_ne (ne_of_not_mem_names hkey hp), get?_ofSlots hslots p hp]

/-- Attributes in the order of the slots are those of the slots if under each name there is what is
in the slot. -/
theorem eq_ofSlots : ∀ {slots : Slots} {as : Attributes}, (slots.map (·.1)).Nodup →
    as.keys.Sublist (slots.map (·.1)) → (∀ p ∈ slots, as.get? p.1 = p.2) → as = ofSlots slots
  | [], _, _, hsub, _ => List.map_eq_nil_iff.mp (List.sublist_nil.mp hsub)
  | (key, value) :: slots, as, hnodup, hsub, hget => by
    obtain ⟨hkey, hslots⟩ := List.nodup_cons.mp hnodup
    have hfirst : as.get? key = value := hget _ List.mem_cons_self
    have hrest := (List.forall_mem_cons.mp hget).2
    rcases List.sublist_cons_iff.mp hsub with hsub | ⟨names, hnames, hsub⟩
    case inl =>
      -- The name of the first slot is none of the attributes' names, so that nothing is in it.
      rw [get?_of_not_mem fun hmem => hkey (hsub.subset hmem)] at hfirst
      rw [← hfirst, ofSlots_cons_none]
      exact eq_ofSlots hslots hsub hrest
    case inr =>
      obtain ⟨⟨k, v⟩, others, rfl, rfl, rfl⟩ := List.map_eq_cons_iff.mp hnames
      rw [get?_cons_self] at hfirst
      have hothers : others = ofSlots slots := eq_ofSlots hslots hsub fun p hp => by
        rw [← hrest p hp, get?_cons_of_ne (ne_of_not_mem_names hkey hp)]
      rw [← hfirst, ofSlots_cons_some, ← hothers]

theorem ite_eq_some_iff {p : Prop} [Decidable p] {w v : AttributeValue} :
    (if p then some w else none) = some v ↔ p ∧ v = w := by
  simp only [Option.ite_none_right_eq_some, Option.some.injEq, @eq_comm _ v]

/-- What is found is what is in a slot, put as a condition on each value. -/
theorem found_eq_iff (found : Option AttributeValue) {held : Option AttributeValue}
    {p : AttributeValue → Prop} (h : ∀ v, held = some v ↔ p v) :
    found = held ↔ ∀ v, found = some v ↔ p v := by
  rw [Option.ext_iff]
  exact forall_congr' fun v => by rw [h v]

/-- The attributes of slots are settled by the order of their names and by what each is set to. -/
theorem eq_ofSlots_iff (h : (slots.map (·.1)).Nodup) : as = ofSlots slots ↔
    as.keys.Sublist (slots.map (·.1)) ∧ ∀ p ∈ slots, as.get? p.1 = p.2 := by
  constructor
  · rintro rfl
    exact ⟨keys_ofSlots_sublist slots, get?_ofSlots h⟩
  · exact fun ⟨hsub, hget⟩ => eq_ofSlots h hsub hget

end Attributes

/-! ## The slots of a column -/

namespace Column

/-- The names that the attributes of a column's tag can have, in the order of the tag. -/
def attributeNames : List String :=
  ["name", "type", "length", "precision", "scale", "nullable", "options"]

/-- The slots that do not depend on what a column is rendered with. -/
def otherSlots (c : Column) (mapped : MappedType) : Attributes.Slots :=
  let scaled := c.parameters.setPrecisionScale
  [("type", some (.text mapped.tagName)),
   ("length", c.parameters.setLength.map .number),
   ("precision", scaled.map fun (precision, _) => .number precision),
   ("scale", scaled.map fun (_, scale) => .number scale),
   ("nullable", if c.nullableRequired then some (.flag c.nullable) else none),
   ("options", if c.isUnsigned then some (.group [("unsigned", .flag true)]) else none)]

/-- The slots of a column's tag. -/
def attributeSlots (ctx : RenderContext) (c : Column) (mapped : MappedType) : Attributes.Slots :=
  let quoted := ctx.table.quote c.name
  ("name", if quoted = c.name then none else some (.text quoted)) :: c.otherSlots mapped

variable {ctx : RenderContext} {c : Column} {mapped : MappedType} {as : Attributes}

theorem names_attributeSlots : (c.attributeSlots ctx mapped).map (·.1) = attributeNames := rfl

theorem nodup_attributeNames : attributeNames.Nodup := by decide

/-- The attributes of a column's tag are its filled slots. -/
theorem attributes_of_mappedType (h : ctx.converter.mappedType c = .ok mapped) :
    c.attributes ctx = .ok (.ofSlots (c.attributeSlots ctx mapped)) := by
  have hslots : ∀ pairs, pairs = Attributes.ofSlots (c.attributeSlots ctx mapped) →
      Attributes.ofPairs pairs = Attributes.ofSlots (c.attributeSlots ctx mapped) := by
    rintro _ rfl
    exact Attributes.ofPairs_of_nodup
      (nodup_attributeNames.sublist (Attributes.keys_ofSlots_sublist _))
  rw [attributes, h]
  refine congrArg Except.ok (hslots _ ?_)
  simp only [attributeSlots, otherSlots, Attributes.ofSlots_cons, Attributes.ofSlots_nil,
    List.append_nil, apply_ite (Option.map _), apply_ite Option.toList, Option.map_none,
    Option.map_some, Option.toList_none, Option.toList_some, List.append_assoc]
  cases c.parameters.setLength <;> rcases c.parameters.setPrecisionScale with _ | ⟨_, _⟩ <;> rfl

/-- Nothing but the mapped type can be missing, and the native type is not asked for. -/
theorem attributes_eq_map (ctx : RenderContext) (c : Column) : c.attributes ctx =
    (ctx.converter.mappedType c).map fun mapped => .ofSlots (c.attributeSlots ctx mapped) := by
  match h : ctx.converter.mappedType c with
  | .ok mapped => exact attributes_of_mappedType h
  | .error e => rw [attributes, h]; rfl

end Column

/-! ## When a slot is filled -/

namespace ColumnParameters

variable {p : ColumnParameters} {n precision scale : Int}

theorem setLength_eq_some_iff : p.setLength = some n ↔ p.length = some n ∧ n ≠ 0 ∧ n ≠ -1 := by
  simp [setLength, isSet]

theorem setPrecisionScale_eq_some_iff : p.setPrecisionScale = some (precision, scale) ↔
    (p.precision = some precision ∧ precision ≠ 0 ∧ precision ≠ -1) ∧
      p.scale = some scale ∧ scale ≠ 0 ∧ scale ≠ -1 := by
  have hfilter : ∀ (given : Option Int) (n : Int),
      given.filter isSet = some n ↔ given = some n ∧ n ≠ 0 ∧ n ≠ -1 := by simp [isSet]
  rw [← hfilter, ← hfilter, setPrecisionScale]
  cases p.precision.filter isSet <;> cases p.scale.filter isSet <;> simp

end ColumnParameters

namespace Column

variable {ctx : RenderContext} {c : Column} {mapped : MappedType} {as : Attributes}

/-- What a column's tag says of a column of some mapped type: a name if quoting changes it, always
the type, each parameter if it is set, precision and scale only together, whether the column is
nullable if that is required, and an option for unsigned columns. -/
structure TaggedBy (ctx : RenderContext) (c : Column) (mapped : MappedType) (as : Attributes) :
    Prop where
  order : as.keys.Sublist attributeNames
  name : ∀ v, as.get? "name" = some v ↔
    ctx.table.quote c.name ≠ c.name ∧ v = .text (ctx.table.quote c.name)
  type : as.get? "type" = some (.text mapped.tagName)
  length : ∀ v, as.get? "length" = some v ↔
    ∃ n, c.parameters.length = some n ∧ n ≠ 0 ∧ n ≠ -1 ∧ v = .number n
  precision : ∀ v, as.get? "precision" = some v ↔ ∃ n m,
    (c.parameters.precision = some n ∧ n ≠ 0 ∧ n ≠ -1) ∧
      (c.parameters.scale = some m ∧ m ≠ 0 ∧ m ≠ -1) ∧ v = .number n
  scale : ∀ v, as.get? "scale" = some v ↔ ∃ n m,
    (c.parameters.precision = some n ∧ n ≠ 0 ∧ n ≠ -1) ∧
      (c.parameters.scale = some m ∧ m ≠ 0 ∧ m ≠ -1) ∧ v = .number m
  nullable : ∀ v, as.get? "nullable" = some v ↔ c.nullableRequired = true ∧ v = .flag c.nullable
  options : ∀ v, as.get? "options" = some v ↔
    c.isUnsigned = true ∧ v = .group [("unsigned", .flag true)]

theorem map_setLength_eq_some_iff {p : ColumnParameters} {v : AttributeValue} :
    p.setLength.map .number = some v ↔
      ∃ n, p.length = some n ∧ n ≠ 0 ∧ n ≠ -1 ∧ v = .number n := by
  simp only [Option.map_eq_some_iff, ColumnParameters.setLength_eq_some_iff, and_assoc,
    @eq_comm _ v]

theorem map_setPrecisionScale_eq_some_iff {p : ColumnParameters} {v : AttributeValue}
    (f : Int × Int → Int) :
    (p.setPrecisionScale.map fun given => .number (f given)) = some v ↔ ∃ n m,
      (p.precision = some n ∧ n ≠ 0 ∧ n ≠ -1) ∧ (p.scale = some m ∧ m ≠ 0 ∧ m ≠ -1) ∧
        v = .number (f (n, m)) := by
  simp only [Option.map_eq_some_iff, Prod.exists, ColumnParameters.setPrecisionScale_eq_some_iff,
    and_assoc, @eq_comm _ v]

/-- The attributes are those of the slots if and only if they say of the column what its tag
says. -/
theorem taggedBy_iff : c.TaggedBy ctx mapped as ↔
    as = .ofSlots (c.attributeSlots ctx mapped) := by
  have hnodup : ((c.attributeSlots ctx mapped).map (·.1)).Nodup := nodup_attributeNames
  rw [Attributes.eq_ofSlots_iff hnodup, names_attributeSlots]
  simp only [attributeSlots, otherSlots, List.forall_mem_cons, List.not_mem_nil, false_implies,
    implies_true, and_true, ← ite_not (ctx.table.quote c.name = c.name)]
  rw [Attributes.found_eq_iff (as.get? "name") fun _ => Attributes.ite_eq_some_iff,
    Attributes.found_eq_iff (as.get? "length") fun _ => map_setLength_eq_some_iff,
    Attributes.found_eq_iff (as.get? "precision") fun _ => map_setPrecisionScale_eq_some_iff (·.1),
    Attributes.found_eq_iff (as.get? "scale") fun _ => map_setPrecisionScale_eq_some_iff (·.2),
    Attributes.found_eq_iff (as.get? "nullable") fun _ => Attributes.ite_eq_some_iff,
    Attributes.found_eq_iff (as.get? "options") fun _ => Attributes.ite_eq_some_iff]
  constructor
  · rintro ⟨order, name, type, length, precision, scale, nullable, options⟩
    exact ⟨order, name, type, length, precision, scale, nullable, options⟩
  · rintro ⟨order, name, type, length, precision, scale, nullable, options⟩
    exact ⟨order, name, type, length, precision, scale, nullable, options⟩

theorem attributes_eq_ok_iff : c.attributes ctx = .ok as ↔
    ∃ mapped, ctx.converter.mappedType c = .ok mapped ∧ c.TaggedBy ctx mapped as := by
  rw [attributes_eq_map]
  cases ctx.converter.mappedType c <;> simp [Except.map, taggedBy_iff, @eq_comm _ as]

theorem attributes_eq_error_iff {e : ConvertError} :
    c.attributes ctx = .error e ↔ ctx.converter.mappedType c = .error e := by
  rw [attributes_eq_map]
  cases ctx.converter.mappedType c <;> simp [Except.map]

/-! ## Reading whether a column is nullable -/

/-- What a reader of a tag takes for `nullable`: no, where the tag does not say. -/
def nullableRead (as : Attributes) : AttributeValue := (as.get? "nullable").getD (.flag false)

theorem TaggedBy.nullableRead_eq (h : c.TaggedBy ctx mapped as) :
    nullableRead as = .flag (c.nullableRequired && c.nullable) := by
  unfold nullableRead
  cases hrequired : c.nullableRequired with
  | true => rw [(h.nullable _).mpr ⟨hrequired, rfl⟩, Option.getD_some, Bool.true_and]
  | false =>
    have hnone : as.get? "nullable" = none := Option.eq_none_iff_forall_ne_some.mpr fun v hv => by
      rw [((h.nullable v).mp hv).1] at hrequired
      cases hrequired
    rw [hnone, Option.getD_none, Bool.false_and]

/-- Where an entry does not keep the attribute away, it is left out of columns that are not
nullable only. -/
theorem nullableRequired_and_nullable (o : Options) {e : ColumnEntry}
    (h : e.nullableRequired ≠ some false) :
    ((e.column o).nullableRequired && (e.column o).nullable) = e.nullable := by
  show (e.nullableRequired.getD (o.nullableMode.requires e.nullable) && e.nullable) = e.nullable
  match hrequired : e.nullableRequired, hmode : o.nullableMode with
  | some true, _ => exact Bool.true_and _
  | some false, _ => exact absurd hrequired h
  | none, .auto => exact Bool.and_self _
  | none, .always => exact Bool.true_and _

/-- **The attributes of a column's tag.** They are missing if and only if the mapped type is, with
the same error, and do not depend on native types. Otherwise they are those that say of the column
what its tag says, each name once; and for a column of a manifest whose entry does not keep
`nullable` away, a reader who takes a missing one for no learns what the entry says. -/
theorem attributes_taggedBy (ctx : RenderContext) (c : Column) :
    (∀ e, c.attributes ctx = .error e ↔ ctx.converter.mappedType c = .error e) ∧
    (∀ nativeType, c.attributes { ctx with converter := { ctx.converter with nativeType } } =
      c.attributes ctx) ∧
    (∀ as, c.attributes ctx = .ok as ↔
      ∃ mapped, ctx.converter.mappedType c = .ok mapped ∧ c.TaggedBy ctx mapped as) ∧
    (∀ as, c.attributes ctx = .ok as → as.keys.Nodup) ∧
    ∀ (o : Options) (entry : ColumnEntry) (as : Attributes),
      entry.nullableRequired ≠ some false → (entry.column o).attributes ctx = .ok as →
        nullableRead as = .flag entry.nullable := by
  refine ⟨fun _ => attributes_eq_error_iff, fun _ => rfl, fun _ => attributes_eq_ok_iff,
    fun as has => ?_, fun o entry as hrequired has => ?_⟩
  · obtain ⟨_, -, htag⟩ := attributes_eq_ok_iff.mp has
    exact nodup_attributeNames.sublist htag.order
  · obtain ⟨_, -, htag⟩ := attributes_eq_ok_iff.mp has
    rw [htag.nullableRead_eq, nullableRequired_and_nullable o hrequired]

end Column

end AnnotatedEntity
