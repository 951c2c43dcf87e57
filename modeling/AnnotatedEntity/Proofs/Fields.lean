/-
Records field by field. A record of fields is read if and only if each of its fields is
(`read_seq_eq_ok_iff`, `read_map_eq_ok_iff`), and all that it reads of named values is what they
hold under the names of its fields: values that are read alike can take each other's place
(`Respects`). A list of values is a table in which the values take the names in turn
(`shape_eq_ok_iff`), and a field under whose name nothing is given has its default
(`read_withDefault_iff`, `read_optional_iff`).
-/
import AnnotatedEntity.Schema.Fields
import Mathlib.Data.List.Forall2

namespace AnnotatedEntity

/-- A list is read if and only if its items are, one by one. -/
theorem mapM_eq_ok_iff {α β ε : Type} {f : α → Except ε β} {as : List α} {bs : List β} :
    as.mapM f = .ok bs ↔ List.Forall₂ (fun a b => f a = .ok b) as bs := by
  induction as generalizing bs with
  | nil => cases bs <;> simp [pure, Except.pure]
  | cons a as ih =>
    rw [List.mapM_cons, List.forall₂_cons_left_iff]
    cases ha : f a with
    | error e => simp [bind, Except.bind]
    | ok b =>
      cases has : as.mapM f with
      | error e => simp [bind, Except.bind, ← ih, has]
      | ok rest => simp [bind, Except.bind, pure, Except.pure, ← ih, has, eq_comm]

/-! ## Look-ups -/

section Lookup

variable {κ β γ : Type} [BEq κ]

theorem lookup_map_snd (f : β → γ) (k : κ) : ∀ entries : List (κ × β),
    (entries.map fun p => (p.1, f p.2)).lookup k = (entries.lookup k).map f
  | [] => rfl
  | p :: rest => by
    rw [List.map_cons, List.lookup_cons, List.lookup_cons, lookup_map_snd f k rest]
    split <;> rfl

variable [LawfulBEq κ]

theorem lookup_cons_eq_ite [DecidableEq κ] (p : κ × β) (rest : List (κ × β)) (k : κ) :
    (p :: rest).lookup k = if k = p.1 then some p.2 else rest.lookup k := by
  rw [List.lookup_cons]
  by_cases h : k = p.1
  · simp [h]
  · simp [beq_eq_false_iff_ne.mpr h, h]

/-- Where no key stands twice, a look-up does not ask for the order. -/
theorem lookup_perm {entries others : List (κ × β)} (h : entries.Perm others)
    (hkeys : (entries.map Prod.fst).Nodup) (k : κ) : others.lookup k = entries.lookup k := by
  induction h with
  | nil => rfl
  | cons p _ ih => rw [List.lookup_cons, List.lookup_cons, ih (List.nodup_cons.mp hkeys).2]
  | swap p q rest =>
    have hne : q.1 ≠ p.1 := fun heq => (List.nodup_cons.mp hkeys).1 (by simp [heq])
    rw [List.lookup_cons, List.lookup_cons, List.lookup_cons, List.lookup_cons]
    by_cases hp : k = p.1
    · have hq : (k == q.1) = false := beq_eq_false_iff_ne.mpr fun hq => hne (hq.symm.trans hp)
      simp [hp ▸ hq, hp]
    · simp [beq_eq_false_iff_ne.mpr hp]
  | trans h _ ih₁ ih₂ => rw [ih₂ ((h.map Prod.fst).nodup hkeys), ih₁ hkeys]

end Lookup

namespace Schema

open Toml (Value)

/-! ## Plain values -/

theorem text_eq_ok_iff (v : Value) (s : String) : text v = .ok s ↔ v = .string s := by
  cases v <;> simp [text, wrongKind]

theorem flag_eq_ok_iff (v : Value) (b : Bool) : flag v = .ok b ↔ v = .boolean b := by
  cases v <;> simp [flag, wrongKind]

theorem number_eq_ok_iff (v : Value) (n : Int) : number v = .ok n ↔ v = .integer n := by
  cases v <;> simp [number, wrongKind]

theorem listOf_eq_ok_iff {α : Type} {shape : Shape α} {v : Value} {as : List α} :
    listOf shape v = .ok as ↔
      ∃ items, v.items? = some items ∧ List.Forall₂ (fun v a => shape v = .ok a) items as := by
  unfold listOf
  split
  next items hitems => simp [hitems, mapM_eq_ok_iff]
  next hitems => simp [hitems, wrongKind]

namespace Fields

variable {α β : Type} {given other : List (String × Value)} {name : String}
  {otherwise : Except FieldFailure α} {shape : Shape α} {a : α}

/-! ## One field after the other -/

theorem read_one_of_none (h : given.lookup name = none) :
    (one name otherwise shape).read given = otherwise := by
  simp only [one, h]

theorem read_one_of_some {v : Value} (h : given.lookup name = some v) :
    (one name otherwise shape).read given = .ok a ↔ shape v = .ok a := by
  simp only [one, h]
  cases shape v <;> simp

theorem applyTo_eq_ok_iff {f : Except FieldFailure (α → β)} {x : Except FieldFailure α} {b : β} :
    applyTo f x = .ok b ↔ ∃ g a, f = .ok g ∧ x = .ok a ∧ g a = b := by
  cases f <;> cases x <;> simp [applyTo]

theorem read_seq_eq_ok_iff {f : Fields (α → β)} {x : Fields α} {b : β} :
    (f <*> x).read given = .ok b ↔ ∃ g a, f.read given = .ok g ∧ x.read given = .ok a ∧ g a = b :=
  applyTo_eq_ok_iff

theorem read_map_eq_ok_iff {g : α → β} {x : Fields α} {b : β} :
    (g <$> x).read given = .ok b ↔ ∃ a, x.read given = .ok a ∧ g a = b := by
  refine (applyTo_eq_ok_iff (f := .ok g)).trans ?_
  simp

theorem read_seq {f : Fields (α → β)} {x : Fields α} {g : α → β} (hf : f.read given = .ok g)
    (hx : x.read given = .ok a) : (f <*> x).read given = .ok (g a) :=
  read_seq_eq_ok_iff.mpr ⟨g, a, hf, hx, rfl⟩

theorem read_map {x : Fields α} (g : α → β) (hx : x.read given = .ok a) :
    (g <$> x).read given = .ok (g a) :=
  read_map_eq_ok_iff.mpr ⟨a, hx, rfl⟩

/-! ## Tables and lists -/

variable {fields : Fields α} {expected : String}

theorem ofEntries_eq_ok_iff : fields.ofEntries given = .ok a ↔ fields.read given = .ok a := by
  unfold ofEntries
  split <;> simp [*]

theorem shape_table_eq_ok_iff :
    fields.shape expected (.table given) = .ok a ↔ fields.read given = .ok a :=
  ofEntries_eq_ok_iff

theorem ofItems_eq_ok_iff {items : List Value} :
    fields.ofItems expected items = .ok a ↔ fields.read (fields.names.zip items) = .ok a := by
  unfold ofItems
  split <;> simp [*]

theorem shape_array_eq_ok_iff {items : List Value} :
    fields.shape expected (.array items) = .ok a ↔ fields.read (fields.names.zip items) = .ok a :=
  ofItems_eq_ok_iff

/-! ## Values that are read alike -/

/-- Under a name two tables hold the same, or values that are alike there. -/
def HoldsAlike (alike : String → Value → Value → Prop) (given other : List (String × Value))
    (name : String) : Prop :=
  other.lookup name = given.lookup name ∨
    ∃ v w, alike name v w ∧ given.lookup name = some v ∧ other.lookup name = some w

/-- From tables that hold alike values under the names of the fields the same is read. -/
def Respects (alike : String → Value → Value → Prop) (fields : Fields α) : Prop :=
  ∀ ⦃given other⦄, (∀ name ∈ fields.names, HoldsAlike alike given other name) →
    ∀ a, fields.read given = .ok a ↔ fields.read other = .ok a

variable {alike : String → Value → Value → Prop}

theorem respects_one (h : ∀ v w, alike name v w → ∀ a, shape v = .ok a ↔ shape w = .ok a) :
    (one name otherwise shape).Respects alike := by
  intro given other hheld a
  rcases hheld name (List.mem_singleton.mpr rfl) with heq | ⟨v, w, halike, hv, hw⟩
  · cases hgiven : given.lookup name with
    | none => rw [read_one_of_none hgiven, read_one_of_none (heq.trans hgiven)]
    | some v => rw [read_one_of_some hgiven, read_one_of_some (heq.trans hgiven)]
  · rw [read_one_of_some hv, read_one_of_some hw, h v w halike]

theorem Respects.map {x : Fields α} (hx : x.Respects alike) (g : α → β) :
    (g <$> x).Respects alike := by
  intro given other hheld b
  simp only [read_map_eq_ok_iff, hx hheld]

theorem Respects.seq {f : Fields (α → β)} {x : Fields α} (hf : f.Respects alike)
    (hx : x.Respects alike) : (f <*> x).Respects alike := by
  intro given other hheld b
  have hgiven : ∀ name ∈ f.names, HoldsAlike alike given other name := fun name hname =>
    hheld name (List.mem_append_left _ hname)
  have hother : ∀ name ∈ x.names, HoldsAlike alike given other name := fun name hname =>
    hheld name (List.mem_append_right _ hname)
  simp only [read_seq_eq_ok_iff, hf hgiven, hx hother]

/-! ## What is read, exactly -/

/-- The named values that a value is: a table as it is, a list with the names in turn. -/
def namedIn (names : List String) (v : Value) : Option (List (String × Value)) :=
  v.entries?.or (v.items?.map names.zip)

theorem shape_eq_ok_iff {v : Value} : fields.shape expected v = .ok a ↔
    ∃ given, namedIn fields.names v = some given ∧ fields.read given = .ok a := by
  unfold Fields.shape namedIn
  split
  next entries hentries => simp [hentries, ofEntries_eq_ok_iff]
  next items hentries hitems => simp [hentries, hitems, ofItems_eq_ok_iff]
  next hentries hitems => simp [hentries, hitems, wrongKind]

theorem read_required_iff {plain : α → Value} (h : ∀ v a, shape v = .ok a ↔ v = plain a) :
    (required name shape).read given = .ok a ↔ given.lookup name = some (plain a) := by
  cases hname : given.lookup name with
  | none => simp [required, read_one_of_none hname]
  | some v => simp only [required, read_one_of_some hname, h, Option.some.injEq]

/-- Where a field is not given, its default is read. -/
theorem read_withDefault_iff {default : α} {plain : α → Value}
    (h : ∀ v a, shape v = .ok a ↔ v = plain a) :
    (withDefault name default shape).read given = .ok a ↔
      (given.lookup name).getD (plain default) = plain a := by
  cases hname : given.lookup name with
  | none =>
    have hdefault : plain default = plain a ↔ default = a := by
      rw [← h, (h _ _).mpr rfl, Except.ok.injEq]
    rw [withDefault, read_one_of_none hname, Option.getD_none, hdefault, Except.ok.injEq]
  | some v => rw [withDefault, read_one_of_some hname, Option.getD_some, h]

theorem read_optional_iff {x : Option α} {plain : α → Value}
    (h : ∀ v a, shape v = .ok a ↔ v = plain a) :
    (optional name shape).read given = .ok x ↔ given.lookup name = x.map plain := by
  cases hname : given.lookup name with
  | none => cases x <;> simp [optional, read_one_of_none hname]
  | some v =>
    have hsome : some <$> shape v = .ok x ↔ ∃ a, shape v = .ok a ∧ some a = x := by
      cases shape v <;> simp [Functor.map, Except.map]
    rw [optional, read_one_of_some hname, hsome]
    cases x <;> simp [h]

theorem read_listOf_iff {as : List α} : (withDefault name [] (listOf shape)).read given = .ok as ↔
    ∃ items, ((given.lookup name).getD (.array [])).items? = some items ∧
      List.Forall₂ (fun v a => shape v = .ok a) items as := by
  cases hname : given.lookup name with
  | none => simp [withDefault, read_one_of_none hname, Value.items?, eq_comm]
  | some v => rw [withDefault, read_one_of_some hname, Option.getD_some, listOf_eq_ok_iff]

end Fields

end Schema

end AnnotatedEntity
