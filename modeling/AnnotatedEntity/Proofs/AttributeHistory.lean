/-
Attributes that are set one after the other. Setting one replaces the value where its name stands,
or else adds the name at the end, and the other names keep their places and their values
(`keys_insert_of_mem`, `insert_of_not_mem`, `get?_insert_of_ne`). After any row of settings each
name is there once, at the place where it was first set, with the value that was set last, and so
it is in the groups at every depth. This says all there is to say of the attributes, so that no
others could have come out (`ofPairs_history`).
-/
import AnnotatedEntity.Proofs.ColumnTag
import Mathlib.Data.Finset.Card
import Mathlib.Data.List.Basic

namespace AnnotatedEntity

namespace Attributes

variable {as : Attributes} {key other : String} {v w : AttributeValue}

/-! ## Setting one attribute -/

theorem keys_insert_of_mem :
    ∀ {as : Attributes}, key ∈ as.keys → (as.insert key v).keys = as.keys
  | [], h => by cases h
  | (k, u) :: as, h => by
    by_cases hk : k = key
    · rw [insert, if_pos hk, ← hk]
      rfl
    · have hmem : key ∈ keys as := (List.mem_cons.mp h).resolve_left (Ne.symm hk)
      rw [insert, if_neg hk]
      exact congrArg (k :: ·) (keys_insert_of_mem hmem)

theorem keys_insert_of_not_mem (h : key ∉ as.keys) : (as.insert key v).keys = as.keys ++ [key] := by
  rw [insert_of_not_mem h, keys, List.map_append, List.map_singleton, keys]

theorem mem_keys_insert_iff : other ∈ (as.insert key v).keys ↔ other ∈ as.keys ∨ other = key := by
  by_cases h : key ∈ as.keys
  · rw [keys_insert_of_mem h]
    exact ⟨.inl, fun hmem => hmem.elim id fun heq => heq ▸ h⟩
  · rw [keys_insert_of_not_mem h, List.mem_append, List.mem_singleton]

theorem get?_insert_self : ∀ as : Attributes, (as.insert key v).get? key = some v
  | [] => get?_cons_self
  | (k, u) :: as => by
    rw [insert]
    split
    · exact get?_cons_self
    · next hk => rw [get?_cons_of_ne hk, get?_insert_self as]

theorem get?_insert_of_ne (h : key ≠ other) :
    ∀ as : Attributes, (as.insert key v).get? other = as.get? other
  | [] => get?_cons_of_ne h
  | (k, u) :: as => by
    rw [insert]
    split
    · next hk => rw [get?_cons_of_ne h, get?_cons_of_ne (hk ▸ h)]
    · by_cases hother : k = other
      · rw [hother, get?_cons_self, get?_cons_self]
      · rw [get?_cons_of_ne hother, get?_cons_of_ne hother, get?_insert_of_ne h as]

theorem get?_eq_none_iff : as.get? key = none ↔ key ∉ as.keys := by
  refine ⟨fun h hmem => ?_, get?_of_not_mem⟩
  induction as with
  | nil => cases hmem
  | cons p as ih =>
    obtain ⟨k, u⟩ := p
    by_cases hk : k = key
    · rw [hk, get?_cons_self] at h
      cases h
    · rw [get?_cons_of_ne hk] at h
      exact ih h ((List.mem_cons.mp hmem).resolve_left (Ne.symm hk))

theorem mem_of_mem_insert {p : String × AttributeValue} :
    ∀ {as : Attributes}, p ∈ as.insert key v → p = (key, v) ∨ p ∈ as
  | [], h => .inl (List.mem_singleton.mp h)
  | (k, u) :: as, h => by
    rw [insert] at h
    split at h
    · exact (List.mem_cons.mp h).imp_right (List.mem_cons_of_mem _)
    · rcases List.mem_cons.mp h with rfl | h
      · exact .inr List.mem_cons_self
      · exact (mem_of_mem_insert h).imp_right (List.mem_cons_of_mem _)

theorem insert_comm (h : key ≠ other) : ∀ {as : Attributes}, key ∈ as.keys ∨ other ∈ as.keys →
    (as.insert key v).insert other w = (as.insert other w).insert key v
  | [], hmem => by simp [keys] at hmem
  | (k, u) :: as, hmem => by
    by_cases hkey : k = key
    · subst hkey
      simp [insert, h]
    · by_cases hother : k = other
      · subst hother
        simp [insert, Ne.symm h]
      · have hrest : key ∈ keys as ∨ other ∈ keys as := by
          simpa [keys, Ne.symm hkey, Ne.symm hother] using hmem
        simp only [insert, if_neg hkey, if_neg hother]
        exact congrArg ((k, u) :: ·) (insert_comm h hrest)

/-- Two attributes can be set in either order, unless both names are new: then they show in which
order they were set. -/
theorem insert_comm_iff (h : key ≠ other) :
    (as.insert key v).insert other w = (as.insert other w).insert key v ↔
      key ∈ as.keys ∨ other ∈ as.keys := by
  refine ⟨fun heq => ?_, insert_comm h⟩
  by_contra hnew
  obtain ⟨hkey, hother⟩ := not_or.mp hnew
  have hother' : other ∉ (as.insert key v).keys := fun hmem =>
    (mem_keys_insert_iff.mp hmem).elim hother (Ne.symm h)
  have hkey' : key ∉ (as.insert other w).keys := fun hmem =>
    (mem_keys_insert_iff.mp hmem).elim hkey h
  have hkeys := congrArg keys heq
  rw [keys_insert_of_not_mem hother', keys_insert_of_not_mem hkey', keys_insert_of_not_mem hkey,
    keys_insert_of_not_mem hother] at hkeys
  simp [h] at hkeys

/-! ## A row of settings -/

/-- The last time that the name is set, it is set to this value. -/
def LastSet (pairs : List (String × AttributeValue)) (key : String) (v : AttributeValue) : Prop :=
  ∃ front back, pairs = front ++ (key, v) :: back ∧ key ∉ keys back

/-- What is said of attributes that were set one after the other, starting from none: how they
stand, and what is found under each name. -/
structure SetBy (pairs : List (String × AttributeValue)) (as : Attributes) : Prop where
  distinct : as.keys.Nodup
  named : ∀ key, key ∈ as.keys ↔ key ∈ keys pairs
  order : as.keys.Pairwise fun k l => (keys pairs).idxOf k < (keys pairs).idxOf l
  latest : ∀ key v, as.get? key = some v ↔ LastSet pairs key v
  absent : ∀ key, as.get? key = none ↔ key ∉ keys pairs
  contained : ∀ key, as.contains key = true ↔ key ∈ keys pairs
  size : as.length = (keys pairs).toFinset.card

variable {pairs : List (String × AttributeValue)}

theorem ofPairs_append (pairs : List (String × AttributeValue)) (key : String)
    (v : AttributeValue) : ofPairs (pairs ++ [(key, v)]) = (ofPairs pairs).insert key v := by
  rw [ofPairs, List.foldl_append, ← ofPairs, List.foldl_cons, List.foldl_nil]

theorem keys_append_singleton (pairs : List (String × AttributeValue))
    (p : String × AttributeValue) : keys (pairs ++ [p]) = keys pairs ++ [p.1] := by
  rw [keys, List.map_append, List.map_singleton, keys]

theorem lastSet_append_iff {p : String × AttributeValue} :
    LastSet (pairs ++ [p]) key v ↔ p = (key, v) ∨ p.1 ≠ key ∧ LastSet pairs key v := by
  constructor
  · rintro ⟨front, back, heq, hback⟩
    rcases List.eq_nil_or_concat back with rfl | ⟨others, q, rfl⟩
    · exact .inl (List.singleton_inj.mp (List.append_inj' heq rfl).2)
    · rw [List.concat_eq_append, ← List.cons_append, ← List.append_assoc] at heq
      obtain ⟨hpairs, hlast⟩ := List.append_inj' heq rfl
      obtain rfl := List.singleton_inj.mp hlast
      rw [List.concat_eq_append, keys_append_singleton, List.mem_append, List.mem_singleton,
        not_or] at hback
      exact .inr ⟨Ne.symm hback.2, front, others, hpairs, hback.1⟩
  · rintro (rfl | ⟨hne, front, back, rfl, hback⟩)
    · exact ⟨pairs, [], rfl, List.not_mem_nil⟩
    · refine ⟨front, back ++ [p], by simp, ?_⟩
      rw [keys_append_singleton, List.mem_append, List.mem_singleton, not_or]
      exact ⟨hback, Ne.symm hne⟩

namespace SetBy

/-- The order of the names, and what is found under each, settle the rest. -/
theorem of_latest (named : ∀ key, key ∈ as.keys ↔ key ∈ keys pairs)
    (order : as.keys.Pairwise fun k l => (keys pairs).idxOf k < (keys pairs).idxOf l)
    (latest : ∀ key v, as.get? key = some v ↔ LastSet pairs key v) : SetBy pairs as := by
  have distinct : as.keys.Nodup := order.imp fun h heq => by
    rw [heq] at h
    exact Nat.lt_irrefl _ h
  have absent : ∀ key, as.get? key = none ↔ key ∉ keys pairs := fun key => by
    rw [get?_eq_none_iff, named]
  refine ⟨distinct, named, order, latest, absent, fun key => ?contained, ?size⟩
  case contained =>
    rw [contains, Option.isSome_iff_ne_none, ne_eq, absent, not_not]
  case size =>
    have hnames : as.keys.toFinset = (keys pairs).toFinset := Finset.ext fun key => by
      rw [List.mem_toFinset, List.mem_toFinset, named]
    rw [← hnames, List.toFinset_card_of_nodup distinct, keys, List.length_map]

theorem nil : SetBy [] [] :=
  of_latest (fun _ => Iff.rfl) .nil fun key v => by simp [get?, LastSet]

/-- One more setting. -/
theorem insert (h : SetBy pairs as) (key : String) (v : AttributeValue) :
    SetBy (pairs ++ [(key, v)]) (as.insert key v) := by
  have hkeys : keys (pairs ++ [(key, v)]) = keys pairs ++ [key] := keys_append_singleton _ _
  have hold : as.keys.Pairwise fun k l =>
      (keys pairs ++ [key]).idxOf k < (keys pairs ++ [key]).idxOf l :=
    h.order.imp_of_mem fun hk hl hlt => by
      rwa [List.idxOf_append_of_mem ((h.named _).mp hk),
        List.idxOf_append_of_mem ((h.named _).mp hl)]
  refine of_latest (fun other => ?named) ?order fun other w => ?latest
  case named =>
    rw [mem_keys_insert_iff, h.named, hkeys, List.mem_append, List.mem_singleton]
  case order =>
    rw [hkeys]
    by_cases hmem : key ∈ as.keys
    · rwa [keys_insert_of_mem hmem]
    · rw [keys_insert_of_not_mem hmem]
      refine List.pairwise_append.mpr ⟨hold, List.pairwise_singleton _ _, fun k hk l hl => ?_⟩
      -- A new name comes behind all those that were set before.
      obtain rfl := List.mem_singleton.mp hl
      have hset := (h.named k).mp hk
      have hnew : l ∉ keys pairs := fun hl => hmem ((h.named l).mpr hl)
      rw [List.idxOf_append_of_mem hset, List.idxOf_append_of_notMem hnew, List.idxOf_cons_self,
        Nat.add_zero]
      exact List.idxOf_lt_length_of_mem hset
  case latest =>
    rw [lastSet_append_iff]
    by_cases hother : key = other
    · subst hother
      simp [get?_insert_self]
    · rw [get?_insert_of_ne hother, h.latest]
      simp [hother]

end SetBy

/-- A row of settings leaves what is said of it. -/
theorem setBy_ofPairs (pairs : List (String × AttributeValue)) : SetBy pairs (ofPairs pairs) := by
  induction pairs using List.reverseRecOn with
  | nil => exact .nil
  | append_singleton pairs p ih =>
    rw [ofPairs_append]
    exact ih.insert p.1 p.2

/-- Attributes are settled by their names in turn and by what is found under each. -/
theorem eq_of_keys_of_get? {as bs : Attributes} (hnodup : bs.keys.Nodup) (hkeys : as.keys = bs.keys)
    (hget : ∀ key, as.get? key = bs.get? key) : as = bs := by
  let slots : Slots := bs.map fun p => (p.1, some p.2)
  have hnames : slots.map (·.1) = bs.keys := by simp [slots, keys]
  have hdistinct : (slots.map (·.1)).Nodup := hnames ▸ hnodup
  have hslots : bs = ofSlots slots := by simp [slots, ofSlots, List.filterMap_map]
  obtain ⟨hsub, hfound⟩ := (eq_ofSlots_iff hdistinct).mp hslots
  rw [hslots]
  exact eq_ofSlots hdistinct (hkeys ▸ hsub) fun p hp => (hget p.1).trans (hfound p hp)

theorem SetBy.eq_ofPairs (h : SetBy pairs as) : as = ofPairs pairs := by
  have h' := setBy_ofPairs pairs
  have hperm : as.keys.Perm (ofPairs pairs).keys :=
    (List.perm_ext_iff_of_nodup h.distinct h'.distinct).mpr fun key => by rw [h.named, h'.named]
  refine eq_of_keys_of_get? h'.distinct (hperm.eq_of_pairwise ?_ h.order h'.order) fun key => ?_
  · exact fun _ _ _ _ hlt hgt => absurd hgt (Nat.lt_asymm hlt)
  · exact Option.ext fun v => by rw [h.latest, h'.latest]

/-! ## Groups -/

/-- The group stands in the attributes, at whatever depth. -/
inductive Within (group : Attributes) : Attributes → Prop
  | here {as : Attributes} {key : String} (h : (key, .group group) ∈ as) : Within group as
  | deeper {as entries : Attributes} {key : String} (h : (key, .group entries) ∈ as)
      (rest : Within group entries) : Within group as

end Attributes

/-- All groups of the value, at every depth, were made by setting one attribute after the other. -/
inductive AttributeValue.Built : AttributeValue → Prop
  | text (s : String) : Built (.text s)
  | number (n : Int) : Built (.number n)
  | flag (b : Bool) : Built (.flag b)
  | group {pairs : List (String × AttributeValue)} (h : ∀ p ∈ pairs, Built p.2) :
      Built (.group (Attributes.ofPairs pairs))

namespace Attributes

variable {pairs : List (String × AttributeValue)} {group : Attributes}

/-- Nothing is found that was not set. -/
theorem mem_of_mem_ofPairs {p : String × AttributeValue} (h : p ∈ ofPairs pairs) : p ∈ pairs := by
  induction pairs using List.reverseRecOn with
  | nil => exact h
  | append_singleton pairs q ih =>
    rw [ofPairs_append] at h
    rcases mem_of_mem_insert h with rfl | h
    · exact List.mem_append_right _ (List.mem_singleton_self _)
    · exact List.mem_append_left _ (ih h)

theorem exists_ofPairs_of_within (hbuilt : ∀ p ∈ pairs, p.2.Built)
    (h : Within group (ofPairs pairs)) :
    ∃ inner, (∀ p ∈ inner, p.2.Built) ∧ group = ofPairs inner := by
  generalize has : ofPairs pairs = as at h
  induction h generalizing pairs with
  | here h =>
    subst has
    cases hbuilt _ (mem_of_mem_ofPairs h) with
    | group hinner => exact ⟨_, hinner, rfl⟩
  | deeper h _ ih =>
    subst has
    cases hbuilt _ (mem_of_mem_ofPairs h) with
    | group hinner => exact ih hinner rfl

/-- **Attributes after any row of settings.** Each name is there once, where it was first set, and
has the value that was set last; no other attributes are so. Two settings can be exchanged if one
of the names is there already, and only then. The groups within were made in the same way, so that
the same holds of them at every depth. -/
theorem ofPairs_history (pairs : List (String × AttributeValue)) :
    (∀ as, SetBy pairs as ↔ as = ofPairs pairs) ∧
    (∀ key other v w, key ≠ other →
      (((ofPairs pairs).insert key v).insert other w = ((ofPairs pairs).insert other w).insert key v
        ↔ key ∈ (ofPairs pairs).keys ∨ other ∈ (ofPairs pairs).keys)) ∧
    ((∀ p ∈ pairs, p.2.Built) → ∀ group, Within group (ofPairs pairs) →
      ∃ inner, group = ofPairs inner ∧ SetBy inner group) := by
  refine ⟨fun as => ⟨SetBy.eq_ofPairs, ?made⟩, fun _ _ _ _ => insert_comm_iff,
    fun hbuilt group h => ?within⟩
  case made =>
    rintro rfl
    exact setBy_ofPairs pairs
  case within =>
    obtain ⟨inner, -, rfl⟩ := exists_ofPairs_of_within hbuilt h
    exact ⟨inner, rfl, setBy_ofPairs inner⟩

end Attributes

end AnnotatedEntity
