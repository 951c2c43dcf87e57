/-
The content of a tag says which attributes it was made from, whatever stands in their texts. A
reader that knows the two forms of names takes the content apart again (`ofContent?_of_wordKeyed`):
the quote that ends a text is the one that no other quote follows, a number or a flag goes on to the
next comma or brace, and a group ends where no further entry begins. Names have to be words, as
those of all tags are (`Column.attributes_wordKeyed`).
-/
import AnnotatedEntity.Proofs.Text.Numeral
import AnnotatedEntity.Proofs.Text.Reader
import AnnotatedEntity.Rendering.Column

namespace AnnotatedEntity

open Text (Reader)

open Text.Reader

/-! ## Names -/

/-- The characters of words: the letters and digits of ASCII, and the underscore. -/
def isWordChar (c : Char) : Bool := c.isAlphanum || c == '_'

/-- A name that is a word. -/
def IsWord (s : String) : Prop := s.toList ≠ [] ∧ s.toList.all isWordChar = true

instance (s : String) : Decidable (IsWord s) := inferInstanceAs (Decidable (_ ∧ _))

/-- The names are words at every level. -/
inductive AttributeValue.WordKeyed : AttributeValue → Prop
  | text (s : String) : WordKeyed (.text s)
  | number (n : Int) : WordKeyed (.number n)
  | flag (b : Bool) : WordKeyed (.flag b)
  | group {entries : List (String × AttributeValue)} (names : ∀ p ∈ entries, IsWord p.1)
      (values : ∀ p ∈ entries, WordKeyed p.2) : WordKeyed (.group entries)

/-- The names are words, those inside braces too. -/
def Attributes.WordKeyed (as : Attributes) : Prop := ∀ p ∈ as, IsWord p.1 ∧ p.2.WordKeyed

/-! ## Reading a value -/

namespace AttributeValue

/-- A text up to the quote that ends it, with two quotes read as one. -/
def readText : Reader (List Char)
  | [] => none
  | '\x22' :: '\x22' :: rest => (readText rest).map fun (s, rest) => ('\x22' :: s, rest)
  | '\x22' :: rest => some ([], rest)
  | c :: rest => (readText rest).map fun (s, rest) => (c :: s, rest)

/-- What a number or a flag can consist of. -/
def isPlain (c : Char) : Bool := c != ',' && c != '\x7d'

/-- The number or the flag that is written so. -/
def ofPlain? (s : List Char) : Option AttributeValue :=
  if s = (Text.flag true).toList then some (.flag true)
  else if s = (Text.flag false).toList then some (.flag false)
  else (Text.signed? s).map .number

def readPlain : Reader AttributeValue := do
  match ofPlain? (← span isPlain) with
  | some v => return v
  | none => failure

def readName : Reader String := do return String.ofList (← someSpan isWordChar)

def readQuotedName : Reader String := do
  literal "\""
  let name ← readName
  literal "\""
  return name

def readEntry (name : Reader String) (value : Reader AttributeValue) :
    Reader (String × AttributeValue) := do
  let k ← name
  literal "="
  let v ← value
  return (k, v)

/-- The entries of a group and the brace that ends it. -/
def readGroup (value : Reader AttributeValue) : Reader (List (String × AttributeValue)) := do
  let entries ← optionally (separated (literal ", ") (readEntry readQuotedName value))
  literal "\x7d"
  return entries.getD []

/-- A value that is nested to some depth at most. -/
def read : Nat → Reader AttributeValue
  | 0, _ => none
  | _ + 1, '\x22' :: rest => (readText rest).map fun (s, rest) => (.text (String.ofList s), rest)
  | depth + 1, '\x7b' :: rest =>
    (readGroup (read depth) rest).map fun (entries, rest) => (.group entries, rest)
  | _ + 1, s => readPlain s

end AttributeValue

/-- The attributes that a tag's content was made from. No value is nested deeper than the content
is long. -/
def Attributes.ofContent? (content : String) : Option Attributes :=
  if content = "" then some []
  else
    let value := AttributeValue.read content.toList.length
    Reader.whole (separated (literal ", ") (AttributeValue.readEntry AttributeValue.readName value))
      content.toList

/-! ## Where a value ends -/

namespace AttributeValue

/-- Behind a value there is nothing, a comma or a closing brace. -/
def Ends (rest : List Char) : Prop := ∀ c ∈ rest.head?, c = ',' ∨ c = '\x7d'

variable {rest : List Char}

theorem Ends.head_ne (h : Ends rest) {c : Char} (hcomma : c ≠ ',') (hbrace : c ≠ '\x7d') :
    rest.head? ≠ some c := fun heq =>
  (h c heq).elim hcomma hbrace

theorem Ends.not_isPlain (h : Ends rest) : ∀ c ∈ rest.head?, isPlain c = false := fun c hc => by
  rcases h c hc with rfl | rfl <;> decide

/-- **The quote that ends a text** is the one that no other quote follows. -/
theorem readText_doubleQuotes (hrest : rest.head? ≠ some '\x22') : ∀ s : List Char,
    readText (doubleQuotes s ++ '\x22' :: rest) = some (s, rest)
  | [] => by
    match rest with
    | [] => rfl
    | c :: rest =>
      show readText ('\x22' :: c :: rest) = _
      rw [readText]
      rintro more heq
      exact hrest (by rw [(List.cons.inj heq).1]; rfl)
  | c :: s => by
    have ih := readText_doubleQuotes hrest s
    by_cases hc : c = '\x22'
    · subst hc
      show readText ('\x22' :: '\x22' :: (doubleQuotes s ++ '\x22' :: rest)) = _
      rw [readText, ih]
      rfl
    · have hcons : doubleQuotes (c :: s) = c :: doubleQuotes s := by
        rw [doubleQuotes, List.flatMap_cons, if_neg hc]
        rfl
      rw [hcons, List.cons_append, readText, ih]
      · rfl
      · exact fun _ h _ => hc h
      · exact hc

/-! ## Numbers and flags -/

/-- Letters, digits and the minus end nothing, and no other form of values begins with them. -/
theorem isPlain_of_isAlphanum {c : Char} (h : c.isAlphanum = true ∨ c = '-') :
    isPlain c = true ∧ c ≠ '\x22' ∧ c ≠ '\x7b' := by
  have hne (d : Char) (hd : d.isAlphanum = false) (hminus : d ≠ '-') : c ≠ d := by
    rintro rfl
    rcases h with h | rfl
    · rw [hd] at h
      cases h
    · exact hminus rfl
  simp [isPlain, hne ',' (by decide) (by decide), hne '\x7d' (by decide) (by decide),
    hne '\x22' (by decide) (by decide), hne '\x7b' (by decide) (by decide)]

theorem isAlphanum_of_mem_toString_int {n : Int} {c : Char} (h : c ∈ (toString n).toList) :
    c.isAlphanum = true ∨ c = '-' := by
  rcases Text.mem_toString_int h with h | h
  · exact .inr h
  · exact .inl (by rw [Char.isAlphanum, h, Bool.or_true])

theorem isAlphanum_of_mem_flag {b : Bool} {c : Char} (h : c ∈ (Text.flag b).toList) :
    c.isAlphanum = true := by
  cases b <;> exact List.all_eq_true.mp rfl c h

theorem ofPlain?_number (n : Int) : ofPlain? (toString n).toList = some (.number n) := by
  have hne (b : Bool) (hb : Text.signed? (Text.flag b).toList = none) :
      (toString n).toList ≠ (Text.flag b).toList := fun heq => by
    rw [← heq, Text.signed?_toString] at hb
    cases hb
  rw [ofPlain?, if_neg (hne true (by decide)), if_neg (hne false (by decide)),
    Text.signed?_toString, Option.map_some]

theorem ofPlain?_flag (b : Bool) : ofPlain? (Text.flag b).toList = some (.flag b) := by
  cases b <;> rfl

/-- A number or a flag goes on to what may follow a value. -/
theorem read_plain {s : List Char} {v : AttributeValue} (n : Nat) (hv : ofPlain? s = some v)
    (hchars : ∀ c ∈ s, c.isAlphanum = true ∨ c = '-') (hrest : Ends rest) :
    read (n + 1) (s ++ rest) = some (v, rest) := by
  have hs : ∀ c ∈ s, isPlain c = true ∧ c ≠ '\x22' ∧ c ≠ '\x7b' := fun c hc =>
    isPlain_of_isAlphanum (hchars c hc)
  have hplain : readPlain (s ++ rest) = some (v, rest) := by
    rw [readPlain, bind_of_some (span_append (fun c hc => (hs c hc).1) hrest.not_isPlain), hv]
    rfl
  match s, hs with
  | [], _ => cases hv
  | c :: s, hs =>
    obtain ⟨-, hquote, hbrace⟩ := hs c List.mem_cons_self
    rw [List.cons_append] at hplain ⊢
    rw [read, hplain]
    · exact fun _ h => hquote (List.cons.inj h).1
    · exact fun _ h => hbrace (List.cons.inj h).1

/-! ## Entries -/

/-- A name as it stands inside braces. -/
def quotedName (k : String) : List Char := '\x22' :: (k.toList ++ ['\x22'])

/-- An entry as it is written, with its name in one of the two forms. -/
def entryText (nameText : String → List Char) (p : String × AttributeValue) : List Char :=
  nameText p.1 ++ '=' :: p.2.render.toList

theorem toList_renderGroup : ∀ es : List (String × AttributeValue), (renderGroup es).toList =
    ", ".toList.intercalate (es.map (entryText quotedName))
  | [] => rfl
  | [(k, v)] => by simp [renderGroup, entryText, quotedName]
  | (k, v) :: q :: es => by
    rw [renderGroup, String.toList_append, toList_renderGroup (q :: es), List.map_cons,
      List.map_cons, List.map_cons, List.intercalate_cons_cons]
    · simp [entryText, quotedName]
    · exact List.cons_ne_nil _ _

theorem readName_append {k : String} (hk : IsWord k) {s : List Char}
    (hs : ∀ c ∈ s.head?, isWordChar c = false) : readName (k.toList ++ s) = some (k, s) := by
  rw [readName, bind_of_some (someSpan_append hk.1 (List.all_eq_true.mp hk.2) hs),
    String.ofList_toList]
  rfl

theorem readQuotedName_append {k : String} (hk : IsWord k) (s : List Char) :
    readQuotedName (quotedName k ++ s) = some (k, s) := by
  have hname : readName (k.toList ++ '\x22' :: s) = some (k, '\x22' :: s) :=
    readName_append hk fun c hc => by
      obtain rfl := Option.some.inj hc
      decide
  have htext : quotedName k ++ s = "\"".toList ++ (k.toList ++ '\x22' :: s) := by
    simp [quotedName]
  rw [htext, readQuotedName, bind_of_some (literal_append "\"" _), bind_of_some hname]
  exact bind_of_some (literal_append "\"" s) _

/-- Entries are read back with their names in either form, if their values are. -/
theorem read_entries {name : Reader String} {nameText : String → List Char}
    {value : Reader AttributeValue} {es : List (String × AttributeValue)} (hes : es ≠ [])
    (hname : ∀ p ∈ es, ∀ s, name (nameText p.1 ++ '=' :: s) = some (p.1, '=' :: s))
    (hvalue : ∀ p ∈ es, ∀ s, Ends s → value (p.2.render.toList ++ s) = some (p.2, s))
    (hrest : Ends rest) (hcomma : rest.head? ≠ some ',') :
    separated (literal ", ") (readEntry name value)
      (", ".toList.intercalate (es.map (entryText nameText)) ++ rest) = some (es, rest) := by
  refine separated_append (by decide) ?_ hrest (literal_of_head rfl hcomma) hes ?_
  · intro s c hc
    exact .inl (Option.some.inj hc).symm
  · intro p hp s hs
    have htext : entryText nameText p ++ s = nameText p.1 ++ '=' :: (p.2.render.toList ++ s) := by
      simp [entryText]
    have hequals : literal "=" ('=' :: (p.2.render.toList ++ s)) =
        some ((), p.2.render.toList ++ s) :=
      literal_append "=" _
    rw [htext, readEntry, bind_of_some (hname p hp _), bind_of_some hequals,
      bind_of_some (hvalue p hp s hs)]
    rfl

theorem readGroup_append {value : Reader AttributeValue} {es : List (String × AttributeValue)}
    (hnames : ∀ p ∈ es, IsWord p.1)
    (hvalue : ∀ p ∈ es, ∀ s, Ends s → value (p.2.render.toList ++ s) = some (p.2, s)) :
    readGroup value (", ".toList.intercalate (es.map (entryText quotedName)) ++ '\x7d' :: rest) =
      some (es, rest) := by
  have hbrace : literal "\x7d" ('\x7d' :: rest) = some ((), rest) := literal_append "\x7d" rest
  have hentries (s : List Char) :=
    optionally_eq (separated (literal ", ") (readEntry readQuotedName value)) s
  rw [readGroup]
  by_cases hes : es = []
  · subst hes
    have hhead : ('\x7d' :: rest).head? ≠ some '\x22' := by simp
    have hnone : separated (literal ", ") (readEntry readQuotedName value) ('\x7d' :: rest) =
        none :=
      bind_of_none (bind_of_none (bind_of_none (literal_of_head rfl hhead) _) _) _
    have hread := hentries ('\x7d' :: rest)
    rw [hnone] at hread
    exact (bind_of_some hread _).trans (bind_of_some hbrace _)
  · have hends : Ends ('\x7d' :: rest) := fun c hc => .inr (Option.some.inj hc).symm
    have hname : ∀ p ∈ es, ∀ s,
        readQuotedName (quotedName p.1 ++ '=' :: s) = some (p.1, '=' :: s) :=
      fun p hp s => readQuotedName_append (hnames p hp) ('=' :: s)
    have hread := hentries
      (", ".toList.intercalate (es.map (entryText quotedName)) ++ '\x7d' :: rest)
    rw [read_entries hes hname hvalue hends (by simp)] at hread
    exact (bind_of_some hread _).trans (bind_of_some hbrace _)

theorem length_le_length_intercalate (sep : List Char) {x : List Char} :
    ∀ {l : List (List Char)}, x ∈ l → x.length ≤ (sep.intercalate l).length
  | [y], h => by simp [List.mem_singleton.mp h]
  | y :: z :: l, h => by
    rw [List.intercalate_cons_cons, List.length_append, List.length_append]
    rcases List.mem_cons.mp h with rfl | h
    · omega
    · have := length_le_length_intercalate sep h
      omega

/-- A value is shorter than the entries it is in. -/
theorem length_render_lt (nameText : String → List Char) {es : List (String × AttributeValue)}
    {p : String × AttributeValue} (hp : p ∈ es) : p.2.render.toList.length <
      (", ".toList.intercalate (es.map (entryText nameText))).length := by
  have := length_le_length_intercalate ", ".toList
    (List.mem_map_of_mem (f := entryText nameText) hp)
  simp only [entryText, List.length_append, List.length_cons] at this
  omega

/-- **A value is read back** from its written form, whatever its texts imitate. -/
theorem read_render {n : Nat} {v : AttributeValue} (h : v.WordKeyed)
    (hlen : v.render.toList.length < n) (hrest : Ends rest) :
    read n (v.render.toList ++ rest) = some (v, rest) := by
  induction n generalizing v rest with
  | zero => exact absurd hlen (Nat.not_lt_zero _)
  | succ n ih =>
    cases h with
    | text s =>
      have htext : (AttributeValue.text s).render.toList ++ rest =
          '\x22' :: (doubleQuotes s.toList ++ '\x22' :: rest) := by
        simp [render]
      rw [htext, read, readText_doubleQuotes (hrest.head_ne (by decide) (by decide)),
        Option.map_some]
      simp only [String.ofList_toList]
    | number k =>
      exact read_plain n (ofPlain?_number k) (fun _ => isAlphanum_of_mem_toString_int) hrest
    | flag b =>
      exact read_plain n (ofPlain?_flag b) (fun _ hc => .inl (isAlphanum_of_mem_flag hc)) hrest
    | @group es names values =>
      have htext : (AttributeValue.group es).render.toList ++ rest =
          '\x7b' ::
            (", ".toList.intercalate (es.map (entryText quotedName)) ++ '\x7d' :: rest) := by
        simp [render, toList_renderGroup]
      have hgroup : readGroup (read n)
          (", ".toList.intercalate (es.map (entryText quotedName)) ++ '\x7d' :: rest) =
            some (es, rest) := by
        refine readGroup_append names fun p hp s hs => ih (values p hp) ?_ hs
        -- The braces alone make the group longer than what is left of the bound for its entries.
        have hlt : p.2.render.toList.length < (renderGroup es).toList.length := by
          rw [toList_renderGroup]
          exact length_render_lt _ hp
        simp only [render, String.toList_append, List.length_append] at hlen
        omega
      rw [htext, read, hgroup, Option.map_some]

end AttributeValue

/-! ## Whole contents -/

namespace Attributes

open AttributeValue

theorem toList_content (as : Attributes) :
    as.content.toList = ", ".toList.intercalate (as.map (entryText String.toList)) := by
  have htext : ∀ p : String × AttributeValue,
      (p.1 ++ "=" ++ p.2.render).toList = entryText String.toList p := fun p => by
    simp [entryText]
  rw [content, String.toList_intercalate, List.map_map]
  exact congrArg _ (List.map_congr_left fun p _ => htext p)

/-- The content of word-keyed attributes is read back. -/
theorem ofContent?_of_wordKeyed {as : Attributes} (h : as.WordKeyed) :
    ofContent? as.content = some as := by
  by_cases has : as = []
  · subst has
    rfl
  · have hvalue : ∀ p ∈ as, ∀ s, Ends s →
        AttributeValue.read as.content.toList.length (p.2.render.toList ++ s) = some (p.2, s) :=
      fun p hp s hs => by
        refine read_render (h p hp).2 ?_ hs
        rw [toList_content]
        exact length_render_lt _ hp
    have hname : ∀ p ∈ as, ∀ s, readName (p.1.toList ++ '=' :: s) = some (p.1, '=' :: s) :=
      fun p hp s => readName_append (h p hp).1 fun c hc => by
        obtain rfl := Option.some.inj hc
        decide
    have hends : Ends [] := fun c hc => by cases hc
    have hread := read_entries has hname hvalue hends (by simp)
    rw [List.append_nil, ← toList_content] at hread
    have hne : as.content ≠ "" := fun heq => by
      obtain ⟨p, as, rfl⟩ := List.exists_cons_of_ne_nil has
      have hlt := length_render_lt String.toList (List.mem_cons_self (a := p) (l := as))
      rw [← toList_content, heq] at hlt
      exact absurd hlt (Nat.not_lt_zero _)
    rw [ofContent?, if_neg hne, Reader.whole, hread]

/-! ## Attributes that are set one after the other -/

theorem WordKeyed.insert {k : String} {v : AttributeValue} (hk : IsWord k) (hv : v.WordKeyed) :
    ∀ {as : Attributes}, as.WordKeyed → (as.insert k v).WordKeyed
  | [], _ => List.forall_mem_singleton.mpr ⟨hk, hv⟩
  | (k', v') :: as, h => by
    obtain ⟨hfirst, has⟩ := List.forall_mem_cons.mp h
    rw [Attributes.insert]
    split
    · exact List.forall_mem_cons.mpr ⟨⟨hk, hv⟩, has⟩
    · exact List.forall_mem_cons.mpr ⟨hfirst, WordKeyed.insert hk hv has⟩

theorem wordKeyed_ofPairs {pairs : List (String × AttributeValue)}
    (h : ∀ p ∈ pairs, IsWord p.1 ∧ p.2.WordKeyed) : (ofPairs pairs).WordKeyed :=
  List.foldlRecOn pairs _ (fun _ hp => by cases hp) fun _ has p hp =>
    WordKeyed.insert (h p hp).1 (h p hp).2 has

/-- **The content says which attributes it was made from.** Where all names are words, at every
level, the attributes are read back from their content, and no others have the same one. -/
theorem ofContent?_content {as : Attributes} (h : as.WordKeyed) :
    ofContent? as.content = some as ∧
      ∀ bs : Attributes, bs.WordKeyed → as.content = bs.content → as = bs := by
  refine ⟨ofContent?_of_wordKeyed h, fun bs hbs heq => ?_⟩
  have hb := ofContent?_of_wordKeyed hbs
  rw [← heq, ofContent?_of_wordKeyed h] at hb
  exact Option.some.inj hb

/-- Texts that look like the end of a text, like another entry and like the end of a group. -/
def imitation : Attributes :=
  [("name", .text "x\", type=\"\"y"), ("length", .number (-12)),
   ("options", .group [("a", .text "\x7d, \"b\"="), ("b", .group []), ("c", .flag false)])]

theorem ofContent?_content_imitation :
    imitation.WordKeyed ∧ ofContent? imitation.content = some imitation := by
  have h : imitation.WordKeyed := by
    refine List.forall_mem_cons.mpr ⟨⟨by decide, .text _⟩, List.forall_mem_cons.mpr
      ⟨⟨by decide, .number _⟩, List.forall_mem_singleton.mpr ⟨by decide, .group (by decide) ?_⟩⟩⟩
    exact List.forall_mem_cons.mpr ⟨.text _, List.forall_mem_cons.mpr
      ⟨.group (by simp) (by simp), List.forall_mem_singleton.mpr (.flag _)⟩⟩
  exact ⟨h, (ofContent?_content h).1⟩

end Attributes

/-- The attributes of a column's tag have words for names. -/
theorem Column.attributes_wordKeyed {ctx : RenderContext} {c : Column} {as : Attributes}
    (h : c.attributes ctx = .ok as) : as.WordKeyed := by
  match hm : ctx.converter.mappedType c with
  | .error e =>
    rw [attributes, hm] at h
    cases h
  | .ok mapped =>
    rw [attributes, hm] at h
    obtain rfl := Except.ok.inj h
    apply Attributes.wordKeyed_ofPairs
    have hone {k : String} {v : AttributeValue} (hk : IsWord k) (hv : v.WordKeyed) :
        ∀ p ∈ [(k, v)], IsWord p.1 ∧ p.2.WordKeyed :=
      List.forall_mem_singleton.mpr ⟨hk, hv⟩
    simp only [List.forall_mem_append]
    refine ⟨⟨⟨⟨⟨?named, hone (by decide) (.text _)⟩, ?sized⟩, ?scaled⟩, ?nullable⟩, ?unsigned⟩
    case named =>
      split
      · simp
      · exact hone (by decide) (.text _)
    case sized =>
      intro p hp
      obtain ⟨n, -, rfl⟩ := List.mem_map.mp hp
      exact ⟨show IsWord "length" by decide, .number n⟩
    case scaled =>
      split
      · exact List.forall_mem_cons.mpr
          ⟨⟨show IsWord "precision" by decide, .number _⟩, hone (by decide) (.number _)⟩
      · simp
    case nullable =>
      split
      · exact hone (by decide) (.flag _)
      · simp
    case unsigned =>
      split
      · exact hone (by decide) (.group (by decide) (List.forall_mem_singleton.mpr (.flag true)))
      · simp

theorem Column.ofContent?_attributes {ctx : RenderContext} {c : Column} {as : Attributes}
    (h : c.attributes ctx = .ok as) : Attributes.ofContent? as.content = some as :=
  Attributes.ofContent?_of_wordKeyed (Column.attributes_wordKeyed h)

end AnnotatedEntity
