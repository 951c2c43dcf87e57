/-
The two places for a column's length: in the parentheses of its raw type, or in its parameters. A
column is mapped the same by either (`mappedType_inlineLength_iff`), but its tag tells of the
parameter alone: with the length in the raw type it is the same tag without the length
(`attributes_inlineLength`). So the place does not matter only for the numbers that stand for no
length, and for columns that have no tag at all (`attributes_inlineLength_iff`).
-/
import AnnotatedEntity.Proofs.ColumnTag
import AnnotatedEntity.Proofs.Run

namespace AnnotatedEntity

/-! ## Attributes but for one name -/

namespace Attributes

def without (key : String) (as : Attributes) : Attributes := as.filter (·.1 ≠ key)

variable {key : String} {slots : Slots}

theorem get?_without_self (as : Attributes) : (as.without key).get? key = none :=
  get?_of_not_mem fun h => by
    obtain ⟨p, hp, hkey⟩ := List.mem_map.mp h
    simpa [hkey] using (List.mem_filter.mp hp).2

theorem not_mem_keys_of_get?_eq_none : ∀ {as : Attributes}, as.get? key = none → key ∉ as.keys
  | [], _ => List.not_mem_nil
  | (k, v) :: as, h => by
    rw [get?] at h
    split at h
    · cases h
    · next hk =>
      exact List.not_mem_cons_of_ne_of_not_mem (Ne.symm hk) (not_mem_keys_of_get?_eq_none h)

/-- Nothing is left out of attributes exactly where there is nothing of the name. -/
theorem without_eq_self_iff {as : Attributes} : as.without key = as ↔ as.get? key = none := by
  constructor
  · intro h
    rw [← h, get?_without_self]
  · intro h
    refine List.filter_eq_self.mpr fun p hp => decide_eq_true fun hkey => ?_
    exact not_mem_keys_of_get?_eq_none h (List.mem_map.mpr ⟨p, hp, hkey⟩)

/-- Slots of which one has been emptied. -/
def Slots.empty (key : String) (slots : Slots) : Slots :=
  slots.map fun (k, value) => (k, if k = key then none else value)

theorem without_ofSlots : ∀ slots : Slots, (ofSlots slots).without key = ofSlots (slots.empty key)
  | [] => rfl
  | (k, value) :: slots => by
    have ih := without_ofSlots slots
    rw [Slots.empty, List.map_cons, ← Slots.empty, ofSlots_cons, ofSlots_cons, ← ih, without,
      List.filter_append, ← without]
    congr 1
    by_cases h : k = key <;> cases value <;> simp [without, h]

end Attributes

/-! ## Type names with and without arguments -/

/-- The type name as it is, alone or with arguments. -/
def RawType.Spelling.bare (name : List Char) (arguments : Option (List Char)) :
    RawType.Spelling name where
  before := []
  path := none
  word := name
  gap := []
  arguments := arguments
  after := []
  blank := by simp
  path_no_paren := by simp
  sameLetters := rfl

namespace RawType.Spelling

theorem text_bare (name : String) : (bare name.toList none).text = name := by
  simp [text, chars, lead, qualified, parenthesized, bare]

theorem text_bare_some (name arguments : String) :
    (bare name.toList (some arguments.toList)).text = name ++ "(" ++ arguments ++ ")" := by
  simp [text, chars, lead, qualified, parenthesized, bare, ← String.toList_inj]

end RawType.Spelling

namespace Column

/-- The column with its length in the parentheses of the raw type. -/
def inlineLength (c : Column) (name : String) (n : Int) : Column :=
  { c with rawType := name ++ "(" ++ toString n ++ ")", parameters.length := none }

/-- The column with its length in the parameters. -/
def givenLength (c : Column) (name : String) (n : Int) : Column :=
  { c with rawType := name, parameters.length := some n }

variable {ctx : RenderContext} {types : TypeTable} {c : Column} {name : String} {n : Int}
  {mapped : MappedType} {as : Attributes}

/-! ## What the column is mapped to -/

theorem ofString_givenLength (h : RawType.IsTypeName name.toList) :
    RawType.ofString (c.givenLength name n).rawType = ⟨(RawType.ofString name).name, none⟩ := by
  have hlength := (RawType.Spelling.bare name.toList none).length_eq h
  rw [RawType.Spelling.text_bare] at hlength
  exact RawType.eq_mk rfl hlength

theorem ofString_inlineLength (h : RawType.IsTypeName name.toList) (hn : Text.fits64 n = true) :
    RawType.ofString (c.inlineLength name n).rawType =
      ⟨(RawType.ofString name).name, some n⟩ := by
  have hname := (RawType.Spelling.bare name.toList none).name_eq h
  have hname' := (RawType.Spelling.bare name.toList (some (toString n).toList)).name_eq h
  have hlength := (RawType.Spelling.bare name.toList (some (toString n).toList)).length_eq h
  rw [RawType.Spelling.text_bare] at hname
  rw [RawType.Spelling.text_bare_some] at hname' hlength
  rw [RawType.Spelling.bare, Option.bind_some, RawType.argumentLength_number hn] at hlength
  exact RawType.eq_mk (hname'.trans hname.symm) hlength

/-- A column is mapped the same, wherever its length stands. -/
theorem mappedType_inlineLength_iff (types : TypeTable) (c : Column)
    (h : RawType.IsTypeName name.toList) (hn : Text.fits64 n = true) :
    (Converter.ofTable types).mappedType (c.inlineLength name n) = .ok mapped ↔
      (Converter.ofTable types).mappedType (c.givenLength name n) = .ok mapped := by
  simp only [TypeTable.mappedType_ofTable, TypeTable.mappedType, ofString_inlineLength h hn,
    ofString_givenLength h]
  have hlength : (some n).or (c.inlineLength name n).parameters.length =
      none.or (c.givenLength name n).parameters.length := rfl
  rw [hlength]
  split
  · rfl
  · split <;> simp

/-! ## What its tag tells -/

theorem attributeSlots_inlineLength (ctx : RenderContext) (c : Column) (name : String) (n : Int)
    (mapped : MappedType) : (c.inlineLength name n).attributeSlots ctx mapped =
      ((c.givenLength name n).attributeSlots ctx mapped).empty "length" := by
  simp only [attributeSlots, otherSlots, Attributes.Slots.empty, List.map_cons, List.map_nil,
    String.reduceEq, if_true, if_false]
  rfl

section

variable {ε α : Type} {x y : Except ε α}

/-- Where the results are the same, both fail or none does. -/
theorem exists_error_congr (h : ∀ a, x = .ok a ↔ y = .ok a) :
    (∃ e, x = .error e) ↔ ∃ e, y = .error e := by
  cases x <;> cases y <;> simp_all

/-- If one of two results is made from the other one, they agree where that changes nothing. -/
theorem agree_iff {f : α → α} {p : Prop} (herror : (∃ e, x = .error e) ↔ ∃ e, y = .error e)
    (hf : ∀ a, y = .ok a → x = .ok (f a)) (hp : ∀ a, y = .ok a → (f a = a ↔ p)) :
    (∀ a, x = .ok a ↔ y = .ok a) ↔ p ∨ ∃ e, y = .error e := by
  cases y with
  | error e =>
    obtain ⟨e', rfl⟩ := herror.mpr ⟨e, rfl⟩
    exact iff_of_true (fun _ => by simp) (.inr ⟨e, rfl⟩)
  | ok a =>
    have hx := hf a rfl
    subst hx
    rw [← hp a rfl]
    constructor
    · exact fun h => .inl (Except.ok.inj ((h a).mpr rfl))
    · rintro (h | ⟨e, h⟩)
      · simp [h]
      · cases h

end

section

variable (ctx : RenderContext) (types : TypeTable) (c : Column)

/-- The length in the raw type is left out of the tag. -/
theorem attributes_inlineLength_of_ok (h : RawType.IsTypeName name.toList)
    (hn : Text.fits64 n = true)
    (has : (c.givenLength name n).attributes { ctx with converter := .ofTable types } = .ok as) :
    (c.inlineLength name n).attributes { ctx with converter := .ofTable types } =
      .ok (as.without "length") := by
  obtain ⟨mapped, hmapped, htag⟩ := attributes_eq_ok_iff.mp has
  have hmapped' := (mappedType_inlineLength_iff types c h hn).mpr hmapped
  rw [taggedBy_iff.mp htag, Attributes.without_ofSlots, ← attributeSlots_inlineLength]
  exact attributes_of_mappedType hmapped'

/-- The length in the parameters is in the tag, but for the numbers that stand for none. -/
theorem get?_length_of_givenLength
    (has : (c.givenLength name n).attributes ctx = .ok as) :
    as.get? "length" = if n = 0 ∨ n = -1 then none else some (.number n) := by
  obtain ⟨mapped, -, htag⟩ := attributes_eq_ok_iff.mp has
  have hnodup : (((c.givenLength name n).attributeSlots ctx mapped).map (·.1)).Nodup :=
    nodup_attributeNames
  have hslot : as.get? "length" = (c.givenLength name n).parameters.setLength.map .number := by
    rw [taggedBy_iff.mp htag]
    exact Attributes.get?_ofSlots hnodup ("length", _)
      (List.mem_cons_of_mem _ (List.mem_cons_of_mem _ List.mem_cons_self))
  rw [hslot]
  by_cases hunset : n = 0 ∨ n = -1
  · rw [if_pos hunset]
    rcases hunset with rfl | rfl <;> rfl
  · rw [if_neg hunset, ColumnParameters.setLength_eq_some_iff.mpr ⟨rfl, not_or.mp hunset⟩,
      Option.map_some]

/-- **The place of a column's length** does not matter for its mapped type, nor for whether it has a
tag. The tag tells of the length in the parameters alone: with the length in the raw type it is the
same tag without it. So the tags agree only where there are none, or where the number stands for no
length. -/
theorem attributes_inlineLength (h : RawType.IsTypeName name.toList)
    (hn : Text.fits64 n = true) :
    let ctx := { ctx with converter := .ofTable types }
    let inline := c.inlineLength name n
    let given := c.givenLength name n
    (∀ mapped, ctx.converter.mappedType inline = .ok mapped ↔
      ctx.converter.mappedType given = .ok mapped) ∧
    ((∃ e, inline.attributes ctx = .error e) ↔ ∃ e, given.attributes ctx = .error e) ∧
    (∀ as, given.attributes ctx = .ok as →
      inline.attributes ctx = .ok (as.without "length") ∧
      as.get? "length" = if n = 0 ∨ n = -1 then none else some (.number n)) ∧
    ((∀ as, inline.attributes ctx = .ok as ↔ given.attributes ctx = .ok as) ↔
      n = 0 ∨ n = -1 ∨ ∃ e, given.attributes ctx = .error e) := by
  intro ctx inline given
  have hmapped : ∀ mapped, ctx.converter.mappedType inline = .ok mapped ↔
      ctx.converter.mappedType given = .ok mapped := fun mapped =>
    mappedType_inlineLength_iff types c h hn
  have herror : (∃ e, inline.attributes ctx = .error e) ↔ ∃ e, given.attributes ctx = .error e := by
    simp only [attributes_eq_error_iff]
    exact exists_error_congr hmapped
  have hwithout : ∀ as, given.attributes ctx = .ok as →
      inline.attributes ctx = .ok (as.without "length") := fun as has =>
    attributes_inlineLength_of_ok _ types c h hn has
  have hlength : ∀ as, given.attributes ctx = .ok as →
      as.get? "length" = if n = 0 ∨ n = -1 then none else some (.number n) := fun as has =>
    get?_length_of_givenLength ctx c has
  refine ⟨hmapped, herror, fun as has => ⟨hwithout as has, hlength as has⟩, ?_⟩
  rw [← or_assoc]
  refine agree_iff herror hwithout fun as has => ?_
  rw [Attributes.without_eq_self_iff, hlength as has]
  split
  · next hunset => exact iff_of_true rfl hunset
  · next hset => exact iff_of_false (fun hnone => by cases hnone) hset

/-- A column of up to forty-five characters, with its length in the parameters. -/
theorem attributes_givenLength_varchar :
    (givenLength { name := "email", rawType := "" } "VARCHAR" 45).attributes
      (.standard {} default) = .ok [("type", .text "string"), ("length", .number 45)] := by
  have hmapped : (RenderContext.standard {} default).converter.mappedType
      (givenLength { name := "email", rawType := "" } "VARCHAR" 45) = .ok .string := by
    decide +kernel
  have hquote : (RenderContext.standard {} default).table.quote "email" = "email" := by
    decide +kernel
  rw [attributes_of_mappedType hmapped, attributeSlots]
  simp only [givenLength, hquote, if_true]
  rfl

theorem attributes_inlineLength_varchar :
    (inlineLength { name := "email", rawType := "" } "VARCHAR" 45).attributes
      (.standard {} default) = .ok [("type", .text "string")] :=
  ((attributes_inlineLength (.standard {} default) (.ofOptions {}) _
    ⟨by simp, by simp, by simp⟩ (by decide)).2.2.1 _ attributes_givenLength_varchar).1

/-- The place of the length does matter for columns that have one. -/
theorem inlineLength_lost : ¬ ∀ (o : Options) (t : Table) (c : Column) (name : String) (n : Int),
    RawType.IsTypeName name.toList → Text.fits64 n = true → n ≠ 0 → n ≠ -1 →
      ∀ as, (c.inlineLength name n).attributes (.standard o t) = .ok as ↔
        (c.givenLength name n).attributes (.standard o t) = .ok as := by
  intro h
  have hname : RawType.IsTypeName "VARCHAR".toList := ⟨by simp, by simp, by simp⟩
  have hgiven := attributes_givenLength_varchar
  have hinline := attributes_inlineLength_of_ok (.standard {} default) (.ofOptions {})
    { name := "email", rawType := "" } hname (by decide) hgiven
  have hsame := hinline.symm.trans
    ((h {} default _ "VARCHAR" 45 hname (by decide) (by decide) (by decide) _).mpr hgiven)
  have hlength := Attributes.without_eq_self_iff.mp (Except.ok.inj hsame)
  exact absurd hlength (by simp [Attributes.get?])

end

end Column

end AnnotatedEntity
