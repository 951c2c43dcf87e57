/-
What does not matter about the spelling of a raw type. A type name can be written behind a dotted
path, in capital letters, with blanks around it and with arguments in parentheses: the normal name
is the same (`Spelling.name_eq`), and the length is the number that opens the parentheses
(`Spelling.length_eq`). A normal name is its own normal form (`ofString_of_isNormal`).
-/
import AnnotatedEntity.Converter
import AnnotatedEntity.Proofs.Text.LetterCase
import AnnotatedEntity.Proofs.Text.Numeral

namespace AnnotatedEntity.RawType

open Text (isBlank trim lower stripBoth dropTrailing)

variable {s front word before after arguments : List Char} {n : Int}

theorem eq_mk {raw : RawType} {name : String} {length : Option Int} (hname : raw.name = name)
    (hlength : raw.length = length) : raw = ⟨name, length⟩ := by
  subst hname hlength
  rfl

/-! ## The name -/

theorem lastSegment_of_no_dot (h : '.' ∉ s) : lastSegment s = s := by
  rw [lastSegment, List.splitOn_eq_singleton h, List.getLast?_singleton, Option.getD_some]

theorem lastSegment_append_dot (path : List Char) (h : '.' ∉ word) :
    lastSegment (path ++ '.' :: word) = word := by
  rw [lastSegment, List.splitOn_append_cons_self, List.splitOn_eq_singleton h,
    List.getLast?_append_of_ne_nil _ (List.cons_ne_nil _ _), List.getLast?_singleton,
    Option.getD_some]

theorem not_mem_of_forall_isBlank {c : Char} (hc : isBlank c = false)
    (h : ∀ c ∈ s, isBlank c = true) : c ∉ s := fun hmem => by
  rw [h c hmem] at hc
  cases hc

theorem not_mem_paren_of_forall_isBlank (h : ∀ c ∈ s, isBlank c = true) : '(' ∉ s :=
  not_mem_of_forall_isBlank (by decide) h

/-- Blanks around a path and a name are forgotten. -/
theorem nameChars_append (hbefore : ∀ c ∈ before, isBlank c = true)
    (hafter : ∀ c ∈ after, isBlank c = true) (s : List Char) :
    nameChars (before ++ (s ++ after)) = nameChars s := by
  have hdot : ∀ {blanks : List Char}, (∀ c ∈ blanks, isBlank c = true) → '.' ∉ blanks :=
    not_mem_of_forall_isBlank (by decide)
  rw [nameChars, nameChars]
  congr 1
  by_cases hmem : '.' ∈ s
  · obtain ⟨path, word, rfl, hword⟩ := Text.exists_append_cons_of_mem hmem
    have hcut : before ++ (path ++ '.' :: word ++ after)
        = (before ++ path) ++ '.' :: (word ++ after) := by simp
    have hword' : '.' ∉ word ++ after := by simp [hword, hdot hafter]
    rw [hcut, lastSegment_append_dot _ hword', lastSegment_append_dot _ hword]
    have hnone : ∀ c ∈ ([] : List Char), isBlank c = true := fun _ h => by cases h
    exact Text.stripBoth_append hnone hafter word
  · have hmem' : '.' ∉ before ++ (s ++ after) := by simp [hmem, hdot hbefore, hdot hafter]
    rw [lastSegment_of_no_dot hmem, lastSegment_of_no_dot hmem']
    exact Text.stripBoth_append hbefore hafter s

/-- The name is that of the text up to the parenthesis, whatever blanks stand around the whole. -/
theorem name_ofChars (s : List Char) :
    (ofChars s).name = String.ofList (nameChars (s.takeWhile (· ≠ '('))) := by
  obtain ⟨before, after, hs, hbefore, hafter⟩ := Text.exists_append_stripBoth isBlank s
  have hfront := Text.forall_ne_of_not_mem (not_mem_paren_of_forall_isBlank hbefore)
  have hname : nameChars (s.takeWhile (· ≠ '(')) = nameChars ((trim s).takeWhile (· ≠ '(')) := by
    rw [← trim] at hs
    generalize trim s = middle at hs
    rw [hs, List.takeWhile_append_of_pos hfront, List.takeWhile_append]
    -- The blanks behind the text are read only where no parenthesis comes before them.
    split
    · next hall =>
      rw [Text.takeWhile_of_not_mem (not_mem_paren_of_forall_isBlank hafter),
        nameChars_append hbefore hafter, (List.takeWhile_prefix _).eq_of_length hall]
    · rw [← List.append_nil (middle.takeWhile _), nameChars_append hbefore (by simp),
        List.append_nil]
  rw [ofChars, hname]

/-! ## The length -/

theorem length_ofChars_of_no_paren (h : '(' ∉ s) : (ofChars s).length = none := by
  have htrim : '(' ∉ trim s := fun hmem => h ((Text.stripBoth_sublist _ s).mem hmem)
  rw [ofChars, Text.dropWhile_of_not_mem htrim]

/-- The length is read off what stands in the parentheses, whatever blanks follow them. -/
theorem length_ofChars_of_paren (h : '(' ∉ front) (hafter : ∀ c ∈ after, isBlank c = true) :
    (ofChars (front ++ '(' :: (arguments ++ ')' :: after))).length = argumentLength arguments := by
  have hempty : dropTrailing isBlank after = [] := Text.dropTrailing_append hafter []
  have htrim : trim (front ++ '(' :: (arguments ++ ')' :: after))
      = front.dropWhile isBlank ++ '(' :: (arguments ++ [')']) := by
    rw [trim, stripBoth, Text.dropWhile_append_stop (by decide),
      Text.dropTrailing_append_stop (by decide), Text.dropTrailing_append_stop (by decide), hempty]
  have hfront : '(' ∉ front.dropWhile isBlank := fun hmem => h ((List.dropWhile_sublist _).mem hmem)
  have hclose : argumentLength (arguments ++ [')']) = argumentLength arguments := by
    rw [argumentLength, Text.dropTrailing_append (by simp), argumentLength]
  rw [ofChars, htrim, Text.dropWhile_append_stop (by decide),
    Text.dropWhile_of_not_mem hfront]
  exact hclose

theorem not_mem_toString_int {c : Char} (h : c.toNat < '-'.toNat) : c ∉ (toString n).toList :=
  fun hmem => Nat.not_lt.mpr (Text.toNat_of_mem_toString_int hmem).1 h

theorem trim_toString_int (n : Int) : trim (toString n).toList = (toString n).toList :=
  Text.trim_of_forall_not_isBlank fun _ hc =>
    have ⟨hfirst, hlast⟩ := Text.toNat_of_mem_toString_int hc
    Text.isBlank_eq_false_of_graphic (Nat.le_trans (by decide) hfirst)
      (Nat.le_trans hlast (by decide))

theorem takeWhile_toString_int (n : Int) :
    (toString n).toList.takeWhile (· ≠ ',') = (toString n).toList :=
  Text.takeWhile_of_not_mem (not_mem_toString_int (by decide))

/-- A number alone is the length. -/
theorem argumentLength_number (hn : Text.fits64 n = true) :
    argumentLength (toString n).toList = some n := by
  have hclose : dropTrailing (· == ')') (toString n).toList = (toString n).toList :=
    Text.dropTrailing_of_forall_not fun c hc => by
      rw [beq_eq_false_iff_ne]
      exact ne_of_mem_of_not_mem hc (not_mem_toString_int (by decide))
  rw [argumentLength, hclose, takeWhile_toString_int, trim_toString_int, Text.integer?_toString hn]

/-- A number is the length whatever arguments follow it. -/
theorem argumentLength_number_comma (hn : Text.fits64 n = true) (rest : List Char) :
    argumentLength ((toString n).toList ++ ',' :: rest) = some n := by
  rw [argumentLength, Text.dropTrailing_append_stop (by decide),
    Text.takeWhile_append_stop (by decide), takeWhile_toString_int, trim_toString_int,
    Text.integer?_toString hn]

/-! ## Spellings of one type name -/

/-- A type name as the built-in types have it, and others like it: of ASCII, and neither a path nor
with arguments. -/
structure IsTypeName (name : List Char) : Prop where
  ascii : ∀ c ∈ name, c.toNat < 128
  no_dot : '.' ∉ name
  no_paren : '(' ∉ name

/-- A way to write a type name as a raw type: its letters in any case, behind a path or not, with
arguments in parentheses or not, between blanks. -/
structure Spelling (name : List Char) where
  before : List Char
  path : Option (List Char)
  word : List Char
  gap : List Char
  arguments : Option (List Char)
  after : List Char
  blank : ∀ c ∈ before ++ (gap ++ after), isBlank c = true
  path_no_paren : ∀ p ∈ path, '(' ∉ p
  sameLetters : word.map Char.toLower = name.map Char.toLower

namespace Spelling

variable {name : List Char} (p : Spelling name)

/-- The name behind its path. -/
def qualified : List Char :=
  match p.path with
  | none => p.word
  | some path => path ++ '.' :: p.word

def parenthesized : List Char :=
  match p.arguments with
  | none => []
  | some arguments => '(' :: (arguments ++ [')'])

/-- What stands before the arguments. -/
def lead : List Char := p.before ++ (p.qualified ++ p.gap)

def chars : List Char := p.lead ++ (p.parenthesized ++ p.after)

def text : String := String.ofList p.chars

theorem blank_before : ∀ c ∈ p.before, isBlank c = true := fun c hc =>
  p.blank c (List.mem_append_left _ hc)

theorem blank_gap : ∀ c ∈ p.gap, isBlank c = true := fun c hc =>
  p.blank c (List.mem_append_right _ (List.mem_append_left _ hc))

theorem blank_after : ∀ c ∈ p.after, isBlank c = true := fun c hc =>
  p.blank c (List.mem_append_right _ (List.mem_append_right _ hc))

/-! ### The word -/

/-- A character of the word and one of the name are the same letter. -/
theorem exists_of_mem_word {c : Char} (h : c ∈ p.word) : ∃ d ∈ name, d.toLower = c.toLower := by
  have hmem : c.toLower ∈ name.map Char.toLower := p.sameLetters ▸ List.mem_map_of_mem h
  exact List.mem_map.mp hmem

theorem ascii_word (h : IsTypeName name) : ∀ c ∈ p.word, c.toNat < 128 := fun c hc => by
  obtain ⟨d, hd, heq⟩ := p.exists_of_mem_word hc
  rw [← Text.ascii_toLower_iff, ← heq, Text.ascii_toLower_iff]
  exact h.ascii d hd

theorem not_mem_word {c : Char} (hsign : Text.within Text.signRanges c = true)
    (hlower : c.toLower = c) (h : c ∉ name) : c ∉ p.word := fun hmem => by
  obtain ⟨d, hd, heq⟩ := p.exists_of_mem_word hmem
  rw [hlower] at heq
  rw [← heq, Text.toLower_of_sign (heq ▸ hsign)] at h
  exact h hd

theorem lower_trim_word (h : IsTypeName name) : lower (trim p.word) = lower (trim name) := by
  have hlower : ∀ {s : List Char}, (∀ c ∈ s, c.toNat < 128) →
      lower (trim s) = trim (s.map Char.toLower) := fun {s} hs => by
    have hascii : ∀ c ∈ trim s, c.toNat < 128 := fun c hc =>
      hs c ((Text.stripBoth_sublist _ s).mem hc)
    rw [Text.lower_ascii hascii, Text.trim_map_toLower]
  rw [hlower h.ascii, hlower (p.ascii_word h), p.sameLetters]

/-! ### The whole -/

theorem not_mem_paren_qualified (h : IsTypeName name) : '(' ∉ p.qualified := by
  have hword : '(' ∉ p.word := p.not_mem_word (by decide) (by decide) h.no_paren
  rw [qualified]
  split
  · exact hword
  · next path hpath => simp [p.path_no_paren path hpath, hword]

/-- A name stays what it is, however it is written. -/
theorem nameChars_qualified (h : IsTypeName name) : nameChars p.qualified = lower (trim name) := by
  have hword : '.' ∉ p.word := p.not_mem_word (by decide) (by decide) h.no_dot
  have hsegment : lastSegment p.qualified = p.word := by
    rw [qualified]
    split
    · exact lastSegment_of_no_dot hword
    · exact lastSegment_append_dot _ hword
  rw [nameChars, hsegment, p.lower_trim_word h]

theorem not_mem_paren_lead (h : IsTypeName name) : '(' ∉ p.lead := by
  simp [lead, p.not_mem_paren_qualified h, not_mem_paren_of_forall_isBlank p.blank_before,
    not_mem_paren_of_forall_isBlank p.blank_gap]

/-- Up to the parenthesis there are only blanks around the name. -/
theorem exists_takeWhile_chars (h : IsTypeName name) : ∃ blanks,
    (∀ c ∈ blanks, isBlank c = true) ∧
    p.chars.takeWhile (· ≠ '(') = p.before ++ (p.qualified ++ blanks) := by
  have hlead := Text.forall_ne_of_not_mem (p.not_mem_paren_lead h)
  rw [chars, List.takeWhile_append_of_pos hlead, lead, parenthesized]
  split
  · refine ⟨p.gap ++ p.after, fun c hc => p.blank c (List.mem_append_right _ hc), ?_⟩
    rw [List.nil_append,
      Text.takeWhile_of_not_mem (not_mem_paren_of_forall_isBlank p.blank_after)]
    simp
  · exact ⟨p.gap, p.blank_gap, by simp⟩

/-- **The normal name** is that of the type name, however it is written. -/
theorem name_eq (h : IsTypeName name) :
    (ofString p.text).name = String.ofList (lower (trim name)) := by
  obtain ⟨blanks, hblanks, hchars⟩ := p.exists_takeWhile_chars h
  rw [ofString, text, String.toList_ofList, name_ofChars, hchars,
    nameChars_append p.blank_before hblanks, p.nameChars_qualified h]

/-- **The length** is the one in the arguments, if there are any. -/
theorem length_eq (h : IsTypeName name) :
    (ofString p.text).length = p.arguments.bind argumentLength := by
  rw [ofString, text, String.toList_ofList, chars, parenthesized]
  cases p.arguments with
  | none =>
    rw [length_ofChars_of_no_paren, Option.bind_none]
    simp [p.not_mem_paren_lead h, not_mem_paren_of_forall_isBlank p.blank_after]
  | some arguments =>
    have hlength : (ofChars (p.lead ++ '(' :: (arguments ++ ')' :: p.after))).length =
        argumentLength arguments :=
      length_ofChars_of_paren (p.not_mem_paren_lead h) p.blank_after
    simpa using hlength

end Spelling

/-! ## Normal names -/

theorem not_mem_dot_lastSegment (s : List Char) : '.' ∉ lastSegment s := by
  rw [lastSegment, List.getLast?_eq_some_getLast (List.splitOn_ne_nil '.' s), Option.getD_some]
  exact Text.not_mem_of_mem_splitOn (List.getLast_mem _)

theorem mem_of_mem_lastSegment {c : Char} (h : c ∈ lastSegment s) : c ∈ s := by
  by_cases hmem : '.' ∈ s
  · obtain ⟨path, word, rfl, hword⟩ := Text.exists_append_cons_of_mem hmem
    rw [lastSegment_append_dot path hword] at h
    simp [h]
  · rwa [lastSegment_of_no_dot hmem] at h

/-- A sign of the name is one of the last part. -/
theorem mem_of_mem_nameChars {c : Char} (hsign : Text.within Text.signRanges c = true)
    (h : c ∈ nameChars s) : c ∈ lastSegment s :=
  (Text.stripBoth_sublist _ _).mem (Text.mem_of_mem_lower hsign h)

/-- What is normal in a normal name. -/
structure IsNormal (name : List Char) : Prop where
  no_dot : '.' ∉ name
  no_paren : '(' ∉ name
  trimmed : trim name = name
  small : lower name = name

/-- The name is normal, whatever the raw type. -/
theorem isNormal_name (raw : String) : IsNormal (ofString raw).name.toList := by
  rw [ofString, name_ofChars, String.toList_ofList]
  refine ⟨fun h => ?_, fun h => ?_, ?_, ?_⟩
  · exact not_mem_dot_lastSegment _ (mem_of_mem_nameChars (by decide) h)
  · have hmem := mem_of_mem_lastSegment (mem_of_mem_nameChars (by decide) h)
    simpa using List.mem_takeWhile_imp hmem
  · exact Text.trim_lower (Text.stripBoth_stripBoth _ _)
  · exact Text.lower_lower _

/-- **A normal name** is a raw type, of that name and without a length. -/
theorem ofString_of_isNormal {name : String} (h : IsNormal name.toList) :
    ofString name = ⟨name, none⟩ := by
  have hname : (ofString name).name = name := by
    rw [ofString, name_ofChars, Text.takeWhile_of_not_mem h.no_paren, nameChars,
      lastSegment_of_no_dot h.no_dot, h.trimmed, h.small, String.ofList_toList]
  exact eq_mk hname (length_ofChars_of_no_paren h.no_paren)

/-! ## All spellings and all raw types -/

/-- **The spelling of a raw type does not matter.** A type name has one normal name, behind whatever
path, in whatever letters and with whatever arguments it is written; a number of 64 bits that opens
the arguments is the length, and without arguments there is none. A normal name has no dot, no
parenthesis and no blanks around it, it is its own normal name, and a mapping for a raw type is one
for its normal name. -/
theorem ofString_spelling :
    (∀ name : List Char, IsTypeName name → ∀ p : Spelling name,
      (ofString p.text).name = String.ofList (lower (trim name)) ∧
      (p.arguments = none → (ofString p.text).length = none) ∧
      ∀ n : Int, Text.fits64 n = true →
        (p.arguments = some (toString n).toList ∨
          ∃ rest, p.arguments = some ((toString n).toList ++ ',' :: rest)) →
        (ofString p.text).length = some n) ∧
    ∀ raw : String,
      '.' ∉ (ofString raw).name.toList ∧ '(' ∉ (ofString raw).name.toList ∧
      trim (ofString raw).name.toList = (ofString raw).name.toList ∧
      ofString (ofString raw).name = ⟨(ofString raw).name, none⟩ ∧
      ∀ (table : TypeTable) (mapped : MappedType),
        Converter.ofTable (table.register (ofString raw).name mapped) =
          Converter.ofTable (table.register raw mapped) := by
  refine ⟨fun name h p => ⟨p.name_eq h, fun hnone => ?_, fun n hn harguments => ?_⟩, fun raw => ?_⟩
  · rw [p.length_eq h, hnone, Option.bind_none]
  · rw [p.length_eq h]
    rcases harguments with heq | ⟨rest, heq⟩
    · rw [heq, Option.bind_some, argumentLength_number hn]
    · rw [heq, Option.bind_some, argumentLength_number_comma hn]
  · have hnormal := isNormal_name raw
    have hself := ofString_of_isNormal hnormal
    refine ⟨hnormal.no_dot, hnormal.no_paren, hnormal.trimmed, hself, fun table mapped => ?_⟩
    rw [TypeTable.register, TypeTable.register, hself]

/-- ` Com.mysql.VARCHAR (-9223372036854775808, x) `, a spelling of `varchar`. -/
def longestVarchar : Spelling "varchar".toList where
  before := " ".toList
  path := some "Com.mysql".toList
  word := "VARCHAR".toList
  gap := " ".toList
  arguments := some "-9223372036854775808, x".toList
  after := " ".toList
  blank := List.all_eq_true.mp (by decide)
  path_no_paren := by simp
  sameLetters := by decide

theorem ofString_spelling_varchar :
    longestVarchar.text = " Com.mysql.VARCHAR (-9223372036854775808, x) " ∧
    ofString longestVarchar.text = ⟨"varchar", some (-9223372036854775808)⟩ := by
  obtain ⟨hname, -, hlength⟩ := ofString_spelling.1 "varchar".toList
    ⟨by simp, by simp, by simp⟩ longestVarchar
  have hlength := hlength (-9223372036854775808) (by decide) (.inr ⟨" x".toList, by decide⟩)
  have hlower : String.ofList (lower (trim "varchar".toList)) = "varchar" := by decide +kernel
  exact ⟨by decide, eq_mk (hname.trans hlower) hlength⟩

end AnnotatedEntity.RawType
