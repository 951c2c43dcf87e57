/-
The counterparts that the case tables give. None of the small ones has a small counterpart of its
own, so that a text in lower case stays as it is (`lower_lower`). Nor do the tables ever give a
blank or a sign: where one stands in the lowered text, it stood in the text before
(`mem_of_mem_lower`). The same holds of capitals, so that a raised letter can be raised again
(`capitalize_upperChar_append`). All of it rests on one look at the entries of the tables
(`tables_settle_and_avoid`).
-/
import AnnotatedEntity.Proofs.Text.AsciiCase
import AnnotatedEntity.Proofs.Text.Cut
import Mathlib.Data.List.Basic

namespace AnnotatedEntity.Text

/-! ## Where counterparts lie -/

/-- Two ranges have nothing in common. -/
def apart (a b : Nat × Nat) : Bool := Nat.blt a.2 b.1 || Nat.blt b.2 a.1

theorem not_mem_of_apart {a b : Nat × Nat} {n : Nat} (h : apart a b = true) (hfirst : a.1 ≤ n)
    (hlast : n ≤ a.2) : ¬ (b.1 ≤ n ∧ n ≤ b.2) := by
  simp only [apart, Bool.or_eq_true, Nat.blt_eq] at h
  omega

theorem toNat_ofNat_of_isValidChar {n : Nat} (h : n.isValidChar) : (Char.ofNat n).toNat = n := by
  rw [Char.ofNat, dif_pos h]
  rfl

namespace CaseRun

variable {r s : CaseRun} {n : Nat}

theorem covers_iff : r.covers n = true ↔
    (r.first ≤ n ∧ n ≤ r.last) ∧ (n - r.first) % r.step = 0 := by
  change (decide (r.first ≤ n) && decide (n ≤ r.last) && (n - r.first) % r.step == 0) = true ↔ _
  simp only [Bool.and_eq_true, decide_eq_true_eq, beq_iff_eq]

/-- The range in which the counterparts of a run lie. -/
def imageRange (r : CaseRun) : Nat × Nat :=
  (((r.first : Int) + r.offset).toNat, ((r.last : Int) + r.offset).toNat)

/-- The counterparts of a run are characters. -/
def isSound (r : CaseRun) : Bool :=
  decide (0 ≤ (r.first : Int) + r.offset) && apart r.imageRange (0xD800, 0xDFFF) &&
    Nat.blt r.imageRange.2 0x110000

/-- No counterpart of a run belongs to the other one: the ranges are apart, or the counterparts
stand where the other run leaves out every second letter. -/
def misses (r s : CaseRun) : Bool :=
  apart r.imageRange (s.first, s.last) ||
    (Nat.beq (s.step % 2) 0 && (Nat.beq (r.step % 2) 0 || Nat.beq r.first r.last) &&
      Nat.beq ((r.imageRange.1 + s.first) % 2) 1)

theorem nonneg_of_isSound (hr : r.isSound = true) : 0 ≤ (r.first : Int) + r.offset := by
  simp only [isSound, Bool.and_eq_true, decide_eq_true_eq] at hr
  exact hr.1.1

theorem toNat_image (hr : r.isSound = true) (hn : r.covers n = true) :
    ((r.image n).toNat : Int) = n + r.offset := by
  obtain ⟨⟨hfirst, hlast⟩, -⟩ := covers_iff.mp hn
  simp only [isSound, Bool.and_eq_true, decide_eq_true_eq, Nat.blt_eq, imageRange, apart,
    Bool.or_eq_true] at hr
  have hvalid : ((n : Int) + r.offset).toNat.isValidChar := by
    rcases hr.1.2 with h | h
    · exact .inl (by omega)
    · exact .inr (by omega)
  rw [image, toNat_ofNat_of_isValidChar hvalid]
  omega

theorem image_mem_imageRange (hr : r.isSound = true) (hn : r.covers n = true) :
    r.imageRange.1 ≤ (r.image n).toNat ∧ (r.image n).toNat ≤ r.imageRange.2 := by
  have himage := toNat_image hr hn
  obtain ⟨⟨hfirst, hlast⟩, -⟩ := covers_iff.mp hn
  simp only [imageRange]
  omega

/-- A step of two keeps to every second letter. -/
theorem mod_two_of_covers (hn : r.covers n = true) (hstep : r.step % 2 = 0) :
    n % 2 = r.first % 2 := by
  obtain ⟨⟨hfirst, -⟩, hmod⟩ := covers_iff.mp hn
  have hdvd : 2 ∣ n - r.first :=
    Nat.dvd_trans (Nat.dvd_of_mod_eq_zero hstep) (Nat.dvd_of_mod_eq_zero hmod)
  omega

theorem not_covers_image (hr : r.isSound = true) (hn : r.covers n = true)
    (h : r.misses s = true) : s.covers (r.image n).toNat = false := by
  rw [Bool.eq_false_iff]
  intro hs
  have himage := toNat_image hr hn
  have hnonneg := nonneg_of_isSound hr
  obtain ⟨⟨hfirst, hlast⟩, -⟩ := covers_iff.mp hn
  rw [misses, Bool.or_eq_true] at h
  rcases h with h | h
  · obtain ⟨hlow, hhigh⟩ := image_mem_imageRange hr hn
    exact not_mem_of_apart h hlow hhigh (covers_iff.mp hs).1
  · simp only [Bool.and_eq_true, Bool.or_eq_true, Nat.beq_eq, imageRange] at h
    obtain ⟨⟨hstep, hstep' | hsingle⟩, hodd⟩ := h
    · have heven := mod_two_of_covers hs hstep
      have heven' := mod_two_of_covers hn hstep'
      omega
    · have heven := mod_two_of_covers hs hstep
      omega

/-- The range in which the letters of a run lie. -/
def range (r : CaseRun) : Nat × Nat := (r.first, r.last)

theorem misses_of_apart (h : apart r.imageRange s.range = true) : r.misses s = true := by
  rw [misses, Bool.or_eq_true]
  exact .inl h

theorem not_covers_of_apart (h : apart (n, n) r.range = true) : (!r.covers n) = true := by
  rw [Bool.not_eq_true', Bool.eq_false_iff]
  exact fun hn => not_mem_of_apart h (Nat.le_refl n) (Nat.le_refl n) (covers_iff.mp hn).1

end CaseRun

/-! ## Looking only at what is near

A table is long, and most of it is far from any one range. So a test that all entries pass which
are apart from a range is made by halves of the table, and not at all in a half that is apart from
the range as a whole. -/

section

variable {α : Type} {f : α → Nat × Nat} {test : α → Bool} {a : Nat × Nat} {l : List α} {x : α}

/-- The least range around the ranges of all entries. -/
def hull (f : α → Nat × Nat) : List α → Nat × Nat
  | [] => (0x110000, 0)
  | x :: l => (min (f x).1 (hull f l).1, max (f x).2 (hull f l).2)

/-- The test of all entries, made by halves down to a number of times. -/
def allNear (f : α → Nat × Nat) (test : α → Bool) (a : Nat × Nat) : Nat → List α → Bool
  | 0, l => l.all test
  | k + 1, l => apart a (hull f l) ||
      (allNear f test a k (l.take (l.length / 2)) && allNear f test a k (l.drop (l.length / 2)))

theorem mem_hull : ∀ {l : List α}, x ∈ l → (hull f l).1 ≤ (f x).1 ∧ (f x).2 ≤ (hull f l).2
  | y :: l, h => by
    rw [hull]
    rcases List.mem_cons.mp h with rfl | h
    · exact ⟨Nat.min_le_left _ _, Nat.le_max_left _ _⟩
    · obtain ⟨hfirst, hlast⟩ := mem_hull h
      exact ⟨(Nat.min_le_right _ _).trans hfirst, hlast.trans (Nat.le_max_right _ _)⟩

theorem apart_of_hull (h : apart a (hull f l) = true) (hx : x ∈ l) : apart a (f x) = true := by
  obtain ⟨hfirst, hlast⟩ := mem_hull (f := f) hx
  simp only [apart, Bool.or_eq_true, Nat.blt_eq] at h ⊢
  omega

/-- The halves leave out no entry that could fail. -/
theorem all_of_allNear (hfar : ∀ x, apart a (f x) = true → test x = true) :
    ∀ {k : Nat} {l : List α}, allNear f test a k l = true → l.all test = true
  | 0, _, h => h
  | k + 1, l, h => by
    rw [allNear, Bool.or_eq_true, Bool.and_eq_true] at h
    rcases h with h | ⟨hfront, hback⟩
    · exact List.all_eq_true.mpr fun x hx => hfar x (apart_of_hull h hx)
    · rw [← List.take_append_drop (l.length / 2) l, List.all_append, all_of_allNear hfar hfront,
        all_of_allNear hfar hback, Bool.and_self]

end

/-! ## Tables whose counterparts are settled -/

section

variable {sequences : List (Nat × List Nat)} {runs : List CaseRun} {c d : Char}

/-- The tables have no counterpart for a code point. -/
def unmapped (sequences : List (Nat × List Nat)) (runs : List CaseRun) (n : Nat) : Bool :=
  sequences.all (fun s => !Nat.beq s.1 n) && runs.all fun r => !r.covers n

theorem counterpart_of_unmapped (h : unmapped sequences runs c.toNat = true) :
    counterpart sequences runs c = [c] := by
  simp only [unmapped, Bool.and_eq_true, List.all_eq_true, Bool.not_eq_true'] at h
  have hsequences : sequences.find? (·.1 == c.toNat) = none :=
    List.find?_eq_none.mpr fun s hs heq => by simpa [beq_iff_eq.mp heq] using h.1 s hs
  have hruns : runs.find? (·.covers c.toNat) = none :=
    List.find?_eq_none.mpr fun r hr hc => by simpa [hc] using h.2 r hr
  rw [counterpart, hsequences, hruns]

/-- What a counterpart can be: of a sequence, of a run, or the character itself, which has none. -/
theorem counterpart_cases (sequences : List (Nat × List Nat)) (runs : List CaseRun) (c : Char) :
    (∃ s ∈ sequences, counterpart sequences runs c = s.2.map Char.ofNat) ∨
    (∃ r ∈ runs, r.covers c.toNat = true ∧ counterpart sequences runs c = [r.image c.toNat]) ∨
    counterpart sequences runs c = [c] := by
  unfold counterpart
  split
  · next s image h => exact .inl ⟨_, List.mem_of_find?_eq_some h, rfl⟩
  · split
    · next r h =>
      have hcovers : r.covers c.toNat = true := by simpa using List.find?_some h
      exact .inr (.inl ⟨r, List.mem_of_find?_eq_some h, hcovers, rfl⟩)
    · exact .inr (.inr rfl)

/-- No counterpart in the tables has a counterpart there itself. -/
structure Settled (sequences : List (Nat × List Nat)) (runs : List CaseRun) : Prop where
  sound : runs.all CaseRun.isSound = true
  misses : (runs.all fun r => runs.all r.misses) = true
  apart : (runs.all fun r => sequences.all fun s => apart r.imageRange (s.1, s.1)) = true
  images : ∀ s ∈ sequences, s.2 ≠ [] ∧
    ∀ n ∈ s.2, n.isValidChar ∧ unmapped sequences runs n = true

/-- The code point of an entry with a sequence, as a range. -/
def sequenceRange (s : Nat × List Nat) : Nat × Nat := (s.1, s.1)

/-- Whether no counterpart in the tables has a counterpart there, told by looking at what is near
it. -/
def settles (sequences : List (Nat × List Nat)) (runs : List CaseRun) : Bool :=
  (runs.all fun r => r.isSound && allNear CaseRun.range r.misses r.imageRange 8 runs &&
      allNear sequenceRange (fun s => apart r.imageRange (s.1, s.1)) r.imageRange 7 sequences) &&
    sequences.all fun s => !s.2.isEmpty && s.2.all fun n => decide n.isValidChar &&
      (allNear sequenceRange (fun s => !Nat.beq s.1 n) (n, n) 7 sequences &&
        allNear CaseRun.range (fun r => !r.covers n) (n, n) 8 runs)

theorem settled_of_settles (h : settles sequences runs = true) : Settled sequences runs := by
  simp only [settles, Bool.and_eq_true, List.all_eq_true, decide_eq_true_eq, Bool.not_eq_true',
    List.isEmpty_eq_false_iff] at h
  obtain ⟨hruns, hsequences⟩ := h
  have hother (n : Nat) (s : Nat × List Nat) (hs : apart (n, n) (sequenceRange s) = true) :
      (!Nat.beq s.1 n) = true := by
    rw [Bool.not_eq_true', Bool.eq_false_iff, ne_eq, Nat.beq_eq]
    exact fun heq => not_mem_of_apart hs (Nat.le_refl n) (Nat.le_refl n) ⟨heq.le, heq.ge⟩
  refine ⟨?sound, ?misses, ?apart, fun s hs => ⟨(hsequences s hs).1, fun n hn => ?image⟩⟩
  case sound => exact List.all_eq_true.mpr fun r hr => (hruns r hr).1.1
  case misses =>
    exact List.all_eq_true.mpr fun r hr =>
      all_of_allNear (fun _ => CaseRun.misses_of_apart) (hruns r hr).1.2
  case apart =>
    exact List.all_eq_true.mpr fun r hr => all_of_allNear (fun _ => id) (hruns r hr).2
  case image =>
    obtain ⟨hvalid, hsequence, hrun⟩ := (hsequences s hs).2 n hn
    refine ⟨hvalid, ?_⟩
    rw [unmapped, all_of_allNear (hother n) hsequence,
      all_of_allNear (fun _ => CaseRun.not_covers_of_apart) hrun, Bool.and_self]

theorem Settled.counterpart_ne_nil (h : Settled sequences runs) (c : Char) :
    counterpart sequences runs c ≠ [] := by
  rcases counterpart_cases sequences runs c with ⟨s, hs, heq⟩ | ⟨r, -, -, heq⟩ | heq
  · rw [heq, ne_eq, List.map_eq_nil_iff]
    exact (h.images s hs).1
  · simp [heq]
  · simp [heq]

/-- A counterpart is its own counterpart. -/
theorem Settled.counterpart_of_mem (h : Settled sequences runs)
    (hd : d ∈ counterpart sequences runs c) : counterpart sequences runs d = [d] := by
  rcases counterpart_cases sequences runs c with ⟨s, hs, heq⟩ | ⟨r, hr, hcovers, heq⟩ | heq
  · rw [heq] at hd
    obtain ⟨n, hn, rfl⟩ := List.mem_map.mp hd
    obtain ⟨hvalid, hunmapped⟩ := (h.images s hs).2 n hn
    exact counterpart_of_unmapped (by rwa [toNat_ofNat_of_isValidChar hvalid])
  · rw [heq] at hd
    obtain rfl := List.mem_singleton.mp hd
    have hsound := List.all_eq_true.mp h.sound r hr
    obtain ⟨hlow, hhigh⟩ := CaseRun.image_mem_imageRange hsound hcovers
    refine counterpart_of_unmapped ?_
    simp only [unmapped, Bool.and_eq_true, List.all_eq_true, Bool.not_eq_true']
    refine ⟨fun s hs => ?_, fun s hs => ?_⟩
    · have hapart := List.all_eq_true.mp (List.all_eq_true.mp h.apart r hr) s hs
      rw [Bool.eq_false_iff, ne_eq, Nat.beq_eq]
      intro heq
      exact not_mem_of_apart hapart hlow hhigh ⟨Nat.le_of_eq heq, Nat.le_of_eq heq.symm⟩
    · exact CaseRun.not_covers_image hsound hcovers
        (List.all_eq_true.mp (List.all_eq_true.mp h.misses r hr) s hs)
  · rw [heq] at hd
    obtain rfl := List.mem_singleton.mp hd
    exact heq

/-- The tables give no character of the ranges. -/
structure Avoids (ranges : List (Nat × Nat)) (sequences : List (Nat × List Nat))
    (runs : List CaseRun) : Prop where
  runs : (runs.all fun r => ranges.all (apart r.imageRange)) = true
  images : ∀ s ∈ sequences, ∀ n ∈ s.2, (ranges.all (apart (n, n))) = true

instance (ranges : List (Nat × Nat)) (sequences : List (Nat × List Nat)) (runs : List CaseRun) :
    Decidable (Avoids ranges sequences runs) :=
  decidable_of_iff
    ((runs.all fun r => ranges.all (apart r.imageRange)) = true ∧
      ∀ s ∈ sequences, ∀ n ∈ s.2, (ranges.all (apart (n, n))) = true)
    ⟨fun h => ⟨h.1, h.2⟩, fun h => ⟨h.runs, h.images⟩⟩

/-- A character of such ranges is the counterpart of itself alone. -/
theorem Settled.eq_of_within {ranges : List (Nat × Nat)} (h : Settled sequences runs)
    (havoids : Avoids ranges sequences runs) (hd : d ∈ counterpart sequences runs c)
    (hwithin : within ranges d = true) : d = c := by
  obtain ⟨b, hb, hrange⟩ := within_iff.mp hwithin
  rcases counterpart_cases sequences runs c with ⟨s, hs, heq⟩ | ⟨r, hr, hcovers, heq⟩ | heq
  · rw [heq] at hd
    obtain ⟨n, hn, rfl⟩ := List.mem_map.mp hd
    rw [toNat_ofNat_of_isValidChar ((h.images s hs).2 n hn).1] at hrange
    have hapart := List.all_eq_true.mp (havoids.images s hs n hn) b hb
    exact absurd hrange (not_mem_of_apart hapart (Nat.le_refl n) (Nat.le_refl n))
  · rw [heq] at hd
    obtain rfl := List.mem_singleton.mp hd
    have hsound := List.all_eq_true.mp h.sound r hr
    obtain ⟨hlow, hhigh⟩ := CaseRun.image_mem_imageRange hsound hcovers
    have hapart := List.all_eq_true.mp (List.all_eq_true.mp havoids.runs r hr) b hb
    exact absurd hrange (not_mem_of_apart hapart hlow hhigh)
  · rw [heq] at hd
    exact List.mem_singleton.mp hd

end

/-! ## The tables of all letters -/

/-- Blanks, and the characters of ASCII from the blank on that are no letters. -/
def signRanges : List (Nat × Nat) := blankRanges ++ [(0x20, 0x40), (0x5B, 0x60), (0x7B, 0x7F)]

/-- What is asked of all entries, for both tables at once. -/
theorem tables_settle_and_avoid :
    (settles lowerSequences lowerRuns = true ∧ Avoids signRanges lowerSequences lowerRuns) ∧
      settles upperSequences upperRuns = true ∧ Avoids signRanges upperSequences upperRuns := by
  decide +kernel

theorem lower_settled : Settled lowerSequences lowerRuns :=
  settled_of_settles tables_settle_and_avoid.1.1

theorem lower_avoids : Avoids signRanges lowerSequences lowerRuns := tables_settle_and_avoid.1.2

theorem upper_settled : Settled upperSequences upperRuns :=
  settled_of_settles tables_settle_and_avoid.2.1

theorem upper_avoids : Avoids signRanges upperSequences upperRuns := tables_settle_and_avoid.2.2

/-! ## Lower case -/

/-- The character is a small form of the other one, at some place of a word. -/
def SmallOf (c d : Char) : Prop := d ∈ lowerChar c ∨ c = 'Σ' ∧ d = 'ς'

/-- The character stays as it is in lower case, wherever it stands. -/
def IsSmall (c : Char) : Prop := lowerChar c = [c] ∧ c ≠ 'Σ'

theorem lowerChar_sigma : lowerChar 'Σ' = ['σ'] ∧ lowerChar 'ς' = ['ς'] := ⟨rfl, rfl⟩

variable {s before : List Char} {c d : Char}

theorem SmallOf.isSmall (h : SmallOf c d) : IsSmall d := by
  obtain ⟨hsigma, hfinal⟩ := lowerChar_sigma
  rcases h with h | ⟨-, rfl⟩
  · have hd : lowerChar d = [d] := lower_settled.counterpart_of_mem h
    refine ⟨hd, ?_⟩
    rintro rfl
    rw [hsigma] at hd
    revert hd
    decide
  · exact ⟨hfinal, by decide⟩

theorem SmallOf.eq_of_sign (h : SmallOf c d) (hd : within signRanges d = true) : d = c := by
  rcases h with h | ⟨-, rfl⟩
  · exact lower_settled.eq_of_within lower_avoids h hd
  · exact absurd hd (by decide)

/-- A character becomes a row of small forms, before what the rest becomes. -/
theorem lowerAfter_cons (before s : List Char) (c : Char) : ∃ image, image ≠ [] ∧
    (∀ d ∈ image, SmallOf c d) ∧
      lowerAfter before (c :: s) = image ++ lowerAfter (c :: before) s := by
  refine ⟨_, ?_, ?_, rfl⟩
  · split
    · simp
    · exact lower_settled.counterpart_ne_nil c
  · split
    · next hc =>
      subst hc
      intro d hd
      obtain rfl := List.mem_singleton.mp hd
      split
      · exact .inr ⟨rfl, rfl⟩
      · exact .inl (by simp [lowerChar_sigma.1])
    · exact fun d hd => .inl hd

theorem exists_of_mem_lowerAfter : ∀ {s before : List Char}, d ∈ lowerAfter before s →
    ∃ c ∈ s, SmallOf c d
  | [], _, h => by cases h
  | c :: s, before, h => by
    obtain ⟨image, -, himage, heq⟩ := lowerAfter_cons before s c
    rw [heq, List.mem_append] at h
    rcases h with h | h
    · exact ⟨c, List.mem_cons_self, himage d h⟩
    · obtain ⟨c', hc', h⟩ := exists_of_mem_lowerAfter h
      exact ⟨c', List.mem_cons_of_mem c hc', h⟩

theorem lowerAfter_of_isSmall : ∀ {s : List Char} (before : List Char), (∀ c ∈ s, IsSmall c) →
    lowerAfter before s = s
  | [], _, _ => rfl
  | c :: s, before, h => by
    obtain ⟨⟨hc, hsigma⟩, hs⟩ := List.forall_mem_cons.mp h
    rw [lowerAfter, if_neg hsigma, hc, lowerAfter_of_isSmall _ hs, List.singleton_append]

/-- **A text in lower case** stays as it is. -/
theorem lower_lower (s : List Char) : lower (lower s) = lower s :=
  lowerAfter_of_isSmall [] fun _ hd =>
    have ⟨_, _, h⟩ := exists_of_mem_lowerAfter hd
    h.isSmall

/-- Signs come out only where they went in. -/
theorem mem_of_mem_lower (hd : within signRanges d = true) (h : d ∈ lower s) : d ∈ s := by
  obtain ⟨c, hc, hsmall⟩ := exists_of_mem_lowerAfter h
  rwa [hsmall.eq_of_sign hd]

theorem lowerAfter_ne_nil (before : List Char) (h : s ≠ []) : lowerAfter before s ≠ [] := by
  obtain ⟨c, rest, rfl⟩ := List.exists_cons_of_ne_nil h
  obtain ⟨image, hne, -, heq⟩ := lowerAfter_cons before rest c
  rw [heq]
  exact List.append_ne_nil_of_left_ne_nil hne _

theorem exists_of_head_lowerAfter (h : d ∈ (lowerAfter before s).head?) :
    ∃ c ∈ s.head?, SmallOf c d := by
  cases s with
  | nil => cases h
  | cons c s =>
    obtain ⟨image, hne, himage, heq⟩ := lowerAfter_cons before s c
    rw [heq, List.head?_append_of_ne_nil _ hne] at h
    exact ⟨c, rfl, himage d (List.mem_of_mem_head? h)⟩

theorem exists_of_getLast_lowerAfter : ∀ {s before : List Char},
    d ∈ (lowerAfter before s).getLast? → ∃ c ∈ s.getLast?, SmallOf c d
  | [], _, h => by cases h
  | [c], before, h => by
    obtain ⟨image, -, himage, heq⟩ := lowerAfter_cons before [] c
    rw [heq, lowerAfter, List.append_nil] at h
    exact ⟨c, rfl, himage d (List.mem_of_getLast? h)⟩
  | c :: next :: s, before, h => by
    obtain ⟨image, -, -, heq⟩ := lowerAfter_cons before (next :: s) c
    have hne := lowerAfter_ne_nil (c :: before) (List.cons_ne_nil next s)
    rw [heq, List.getLast?_append_of_ne_nil _ hne] at h
    obtain ⟨c', hc', hsmall⟩ := exists_of_getLast_lowerAfter h
    exact ⟨c', by rwa [List.getLast?_cons_cons], hsmall⟩

theorem within_signRanges_of_isBlank (h : isBlank c = true) : within signRanges c = true := by
  rw [signRanges, within, List.any_append, Bool.or_eq_true]
  exact .inl h

/-- A trimmed text is trimmed in lower case. -/
theorem trim_lower (h : trim s = s) : trim (lower s) = lower s := by
  rw [trim, stripBoth_eq_self_iff] at h ⊢
  have hblank : ∀ {c d}, SmallOf c d → isBlank c = false → isBlank d = false := by
    intro c d hsmall hc
    rw [Bool.eq_false_iff] at hc ⊢
    intro hd
    rw [hsmall.eq_of_sign (within_signRanges_of_isBlank hd)] at hd
    exact hc hd
  refine ⟨fun d hd => ?_, fun d hd => ?_⟩
  · obtain ⟨c, hc, hsmall⟩ := exists_of_head_lowerAfter hd
    exact hblank hsmall (h.1 c hc)
  · obtain ⟨c, hc, hsmall⟩ := exists_of_getLast_lowerAfter hd
    exact hblank hsmall (h.2 c hc)

/-! ## The letters of ASCII -/

/-- A letter of ASCII becomes no sign. -/
theorem toLower_of_sign (h : within signRanges c.toLower = true) : c.toLower = c := by
  by_cases hc : c.toNat < 128
  · have hsmall : SmallOf c c.toLower :=
      .inl (by rw [lowerChar_ascii hc]; exact List.mem_singleton_self _)
    exact hsmall.eq_of_sign h
  · exact toLower_of_not_ascii (Nat.le_of_not_lt hc)

theorem isBlank_toLower (c : Char) : isBlank c.toLower = isBlank c := by
  by_cases h : c.toNat < 128
  · exact forall_ascii (P := fun c => isBlank c.toLower = isBlank c) (by decide) h
  · rw [toLower_of_not_ascii (Nat.le_of_not_lt h)]

theorem trim_map_toLower (s : List Char) :
    trim (s.map Char.toLower) = (trim s).map Char.toLower := by
  have hblank : isBlank ∘ Char.toLower = isBlank := funext isBlank_toLower
  simp only [trim, stripBoth, dropTrailing, List.dropWhile_map, ← List.map_reverse, hblank]

/-! ## Capitals -/

theorem upperChar_ne_nil (c : Char) : upperChar c ≠ [] := upper_settled.counterpart_ne_nil c

/-- A raised letter stays as it is where it is raised again, also if it became a row of them. -/
theorem capitalize_upperChar_append (c : Char) (rest : List Char) :
    capitalize (upperChar c ++ rest) = upperChar c ++ rest := by
  obtain ⟨d, more, hc⟩ := List.exists_cons_of_ne_nil (upperChar_ne_nil c)
  have hd : upperChar d = [d] :=
    upper_settled.counterpart_of_mem (show d ∈ upperChar c by simp [hc])
  rw [hc, List.cons_append, capitalize, hd, List.singleton_append]

/-- Raising the first letter puts in no sign. -/
theorem mem_of_mem_capitalize (hd : within signRanges d = true) (h : d ∈ capitalize s) :
    d ∈ s := by
  cases s with
  | nil => exact h
  | cons c s =>
    rcases List.mem_append.mp h with h | h
    · rw [upper_settled.eq_of_within upper_avoids h hd]
      exact List.mem_cons_self
    · exact List.mem_cons_of_mem c h

end AnnotatedEntity.Text
