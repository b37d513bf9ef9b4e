import ReactiveGraph.Json.Printer

namespace ReactiveGraph

/-!
# How JSON values are spelled

The grammar of JSON says which texts spell a value.  There are many for each of
them, because blanks may stand between any two tokens and most characters of a
string can be escaped in more than one way.  Numbers are values as they are
spelled.  Both forms in which documents are written here, the compact and the
indented one, spell the value that they are written for.
-/

namespace Json

def Blank (gap : List Char) : Prop :=
  ∀ c ∈ gap, c ∈ [' ', '\t', '\n', '\r']

instance (gap : List Char) : Decidable (Blank gap) :=
  List.decidableBAll _ gap

def IsHex (digit : Char) (value : Nat) : Prop :=
  "0123456789abcdef".toList[value]? = some digit ∨ "0123456789ABCDEF".toList[value]? = some digit

instance (digit : Char) (value : Nat) : Decidable (IsHex digit value) :=
  inferInstanceAs (Decidable (_ ∨ _))

theorem IsHex.lt {digit : Char} {value : Nat} (hex : IsHex digit value) : value < 16 := by
  rcases hex with found | found
  · exact (List.getElem?_eq_some_iff.mp found).1
  · exact (List.getElem?_eq_some_iff.mp found).1

/-- The characters that may follow a backslash on their own, with those that
they stand for. -/
def shortEscapes : List (Char × Char) :=
  [('"', '"'), ('\\', '\\'), ('/', '/'), ('b', '\x08'), ('f', '\x0c'), ('n', '\n'), ('r', '\r'),
    ('t', '\t')]

/-- The letter of a code unit: half of a surrogate pair, or a character. -/
inductive IsUnit (unit : Nat) : Letter → Prop where
  | surrogate (lowest : 0xD800 ≤ unit) (highest : unit ≤ 0xDFFF) : IsUnit unit (.surrogate unit)
  | char (c : Char) (same : c.toNat = unit) : IsUnit unit (.char c)

/-- A text between quotes that spells one letter of a string. -/
inductive SpellsLetter : Letter → List Char → Prop where
  | plain (c : Char) (printing : 0x20 ≤ c.toNat) (unquoted : c ≠ '"') (unescaped : c ≠ '\\') :
      SpellsLetter (.char c) [c]
  | short (escape c : Char) (listed : (escape, c) ∈ shortEscapes) :
      SpellsLetter (.char c) ['\\', escape]
  | unit {a b c d : Char} {first second third fourth : Nat} {letter : Letter}
      (digits : IsHex a first ∧ IsHex b second ∧ IsHex c third ∧ IsHex d fourth)
      (valued : IsUnit (((first * 16 + second) * 16 + third) * 16 + fourth) letter) :
      SpellsLetter letter ['\\', 'u', a, b, c, d]

/-- A text between quotes that spells the letters of a string. -/
inductive SpellsLetters : List Letter → List Char → Prop where
  | nil : SpellsLetters [] []
  | cons {letter : Letter} {letters : List Letter} {text rest : List Char}
      (first : SpellsLetter letter text) (others : SpellsLetters letters rest) :
      SpellsLetters (letter :: letters) (text ++ rest)

/-- The text that letters make: a character is a letter by itself or, if it has
no code unit of its own, the two halves of a surrogate pair. -/
inductive HasText : List Letter → List Char → Prop where
  | nil : HasText [] []
  | char (c : Char) {letters : List Letter} {text : List Char} (others : HasText letters text) :
      HasText (.char c :: letters) (c :: text)
  | pair {c : Char} (large : 0x10000 ≤ c.toNat) {letters : List Letter} {text : List Char}
      (others : HasText letters text) :
      HasText (.surrogate (0xD800 + (c.toNat - 0x10000) / 0x400) ::
        .surrogate (0xDC00 + (c.toNat - 0x10000) % 0x400) :: letters) (c :: text)

structure Digits (text : List Char) : Prop where
  some : text ≠ []
  digits : ∀ c ∈ text, c.isDigit = true

/-- The digits before the point: a zero alone, or any that start with no
zero. -/
def IsWhole (text : List Char) : Prop :=
  text = ['0'] ∨ Digits text ∧ text.head? ≠ some '0'

def IsFraction (text : List Char) : Prop :=
  text = [] ∨ ∃ digits, Digits digits ∧ text = '.' :: digits

def IsExponent (text : List Char) : Prop :=
  text = [] ∨ ∃ mark ∈ ['e', 'E'], ∃ sign ∈ [[], ['+'], ['-']], ∃ digits, Digits digits ∧
    text = mark :: (sign ++ digits)

inductive IsNumber : List Char → Prop where
  | intro {sign whole fraction exponent : List Char} (signed : sign ∈ [[], ['-']])
      (isWhole : IsWhole whole) (isFraction : IsFraction fraction)
      (isExponent : IsExponent exponent) :
      IsNumber (sign ++ (whole ++ (fraction ++ exponent)))

mutual

/-- The text spells the value, and neither starts nor ends with blanks. -/
inductive Spells : Json → List Char → Prop where
  | null : Spells null "null".toList
  | isTrue : Spells (bool true) "true".toList
  | isFalse : Spells (bool false) "false".toList
  | number {literal : List Char} (isNumber : IsNumber literal) : Spells (number literal) literal
  | string {letters : List Letter} {text : List Char} (spelled : SpellsLetters letters text) :
      Spells (string letters) ('"' :: (text ++ ['"']))
  | emptyArray {gap : List Char} (blank : Blank gap) : Spells (array []) ('[' :: (gap ++ [']']))
  | array {items : List Json} {text : List Char} (spelled : SpellsItems items text) :
      Spells (array items) ('[' :: (text ++ [']']))
  | emptyObject {gap : List Char} (blank : Blank gap) : Spells (object []) ('{' :: (gap ++ ['}']))
  | object {members : List (List Letter × Json)} {text : List Char}
      (spelled : SpellsMembers members text) : Spells (object members) ('{' :: (text ++ ['}']))

/-- The text spells the value, with any blanks around it. -/
inductive Padded : Json → List Char → Prop where
  | intro {json : Json} {before text after : List Char} (blankBefore : Blank before)
      (spelled : Spells json text) (blankAfter : Blank after) :
      Padded json (before ++ (text ++ after))

inductive SpellsItems : List Json → List Char → Prop where
  | last {item : Json} {text : List Char} (padded : Padded item text) : SpellsItems [item] text
  | more {item : Json} {items : List Json} {text rest : List Char} (padded : Padded item text)
      (others : SpellsItems items rest) : SpellsItems (item :: items) (text ++ ',' :: rest)

inductive SpellsMember : List Letter × Json → List Char → Prop where
  | intro {key : List Letter} {value : Json} {before quoted after text : List Char}
      (blankBefore : Blank before) (named : SpellsLetters key quoted) (blankAfter : Blank after)
      (padded : Padded value text) :
      SpellsMember (key, value) (before ++ '"' :: (quoted ++ '"' :: (after ++ ':' :: text)))

inductive SpellsMembers : List (List Letter × Json) → List Char → Prop where
  | last {member : List Letter × Json} {text : List Char} (spelled : SpellsMember member text) :
      SpellsMembers [member] text
  | more {member : List Letter × Json} {members : List (List Letter × Json)}
      {text rest : List Char} (spelled : SpellsMember member text)
      (others : SpellsMembers members rest) :
      SpellsMembers (member :: members) (text ++ ',' :: rest)

end

theorem blank_nil : Blank [] :=
  fun _ none => nomatch none

theorem Spells.unpadded {json : Json} {text : List Char} (spelled : Spells json text) :
    Padded json text := by
  have padded := Padded.intro blank_nil spelled blank_nil
  rwa [List.append_nil] at padded

theorem isHex_digitChar {value : Nat} (small : value < 16) : IsHex (Nat.digitChar value) value := by
  have all : ∀ value : Fin 16,
      "0123456789abcdef".toList[value.val]? = some (Nat.digitChar value.val) := by
    decide
  exact Or.inl (all ⟨value, small⟩)

theorem spellsLetter_writeChar (c : Char) : SpellsLetter (.char c) (writeChar c) := by
  by_cases special : c ∈ ['"', '\\', '\x08', '\x0c', '\n', '\r', '\t']
  · simp only [List.mem_cons, List.not_mem_nil, or_false] at special
    rcases special with rfl | rfl | rfl | rfl | rfl | rfl | rfl <;>
      exact .short _ _ (by decide)
  · simp only [List.mem_cons, List.not_mem_nil, or_false, not_or] at special
    rcases special with ⟨quote, slash, back, feed, line, carriage, tab⟩
    rw [writeChar, if_neg quote, if_neg slash, if_neg back, if_neg feed, if_neg line,
      if_neg carriage, if_neg tab]
    split
    next control =>
      have small : ∀ value, value % 16 < 16 := fun value => Nat.mod_lt value (by decide)
      refine .unit ⟨isHex_digitChar (small _), isHex_digitChar (small _),
        isHex_digitChar (small _), isHex_digitChar (small _)⟩ (.char c ?_)
      omega
    next printing => exact .plain c (Nat.le_of_not_lt printing) quote slash

theorem spellsLetters_text (text : List Char) :
    SpellsLetters (text.map .char) ((text.map Letter.char).flatMap writeLetter) := by
  induction text with
  | nil => exact .nil
  | cons c rest ih => exact .cons (spellsLetter_writeChar c) ih

theorem hasText_chars (text : List Char) : HasText (text.map .char) text := by
  induction text with
  | nil => exact .nil
  | cons c rest ih => exact .char c ih

/-- The first digit of a number is no zero, unless that is the number. -/
theorem head?_decimalDigits {n : Nat} (nonzero : n ≠ 0) :
    (Text.decimalDigits n).head? ≠ some '0' := by
  induction n using Nat.strongRecOn with
  | ind n ih =>
      have single : ∀ digit : Fin 10, digit.val ≠ 0 → Nat.digitChar digit.val ≠ '0' := by
        decide
      rw [Text.decimalDigits]
      rcases Nat.lt_or_ge n 10 with small | large
      · rw [Nat.toDigits_of_lt_base small, List.head?_cons, ne_eq, Option.some.injEq]
        exact single ⟨n, small⟩ nonzero
      · have front := ih (n / 10) (by omega) (by omega)
        rw [Text.decimalDigits] at front
        rw [Nat.toDigits_of_base_le (by decide) large, List.head?_append]
        cases first : (Nat.toDigits 10 (n / 10)).head? with
        | none => exact absurd (List.head?_eq_none_iff.mp first) Nat.toDigits_ne_nil
        | some digit => rwa [first] at front

theorem isWhole_decimalDigits (n : Nat) : IsWhole (Text.decimalDigits n) := by
  by_cases zero : n = 0
  · subst zero
    exact Or.inl rfl
  · refine Or.inr ⟨⟨Nat.toDigits_ne_nil, ?_⟩, head?_decimalDigits zero⟩
    exact fun _ member => Nat.isDigit_of_mem_toDigits (by decide) (by decide) member

theorem spells_ofNat (n : Nat) : Spells (ofNat n) (Text.decimalDigits n) := by
  have number : IsNumber ([] ++ (Text.decimalDigits n ++ ([] ++ []))) :=
    .intro (by decide) (isWhole_decimalDigits n) (Or.inl rfl) (Or.inl rfl)
  rw [List.append_nil, List.append_nil] at number
  exact .number number

/-! ## Written documents -/

/-- Both forms of the value spell it. -/
structure Writable (json : Json) : Prop where
  compact : Spells json json.compact
  pretty : ∀ level, Spells json (json.pretty level)

theorem writable_null : Writable null :=
  ⟨by rw [compact]; exact .null, fun _ => by rw [pretty]; exact .null⟩

theorem writable_bool (value : Bool) : Writable (bool value) := by
  have spelled : Spells (bool value) (writeBool value) := by
    cases value
    · exact .isFalse
    · exact .isTrue
  exact ⟨by rwa [compact], fun _ => by rwa [pretty]⟩

theorem writable_ofNat (n : Nat) : Writable (ofNat n) := by
  have spelled := spells_ofNat n
  rw [ofNat] at spelled ⊢
  exact ⟨by rwa [compact], fun _ => by rwa [pretty]⟩

theorem writable_ofText (text : String) : Writable (ofText text) := by
  have spelled : Spells (ofText text) (writeString (text.toList.map .char)) :=
    .string (spellsLetters_text text.toList)
  exact ⟨by rwa [ofText, compact], fun _ => by rwa [ofText, pretty]⟩

theorem blank_newLine (level : Nat) : Blank (newLine level) := by
  intro c member
  rcases List.mem_cons.mp member with rfl | space
  · decide
  · rw [List.eq_of_mem_replicate space]
    decide

theorem spells_compactItems {item : Json} {items : List Json}
    (writable : ∀ other ∈ item :: items, Writable other) :
    SpellsItems (item :: items) (compactItems (item :: items)) := by
  induction items generalizing item with
  | nil =>
      rw [compactItems]
      exact .last (writable item List.mem_cons_self).compact.unpadded
  | cons next items ih =>
      rw [compactItems]
      · exact .more (writable item List.mem_cons_self).compact.unpadded
          (ih fun other member => writable other (List.mem_cons_of_mem item member))
      · exact List.cons_ne_nil next items

/-- Behind the first item, the others and the closing bracket stand on lines of
their own. -/
theorem spells_prettyItems {item : Json} {items : List Json} (level : Nat)
    (writable : ∀ other ∈ item :: items, Writable other) :
    SpellsItems (item :: items) (newLine (level + 1) ++ (pretty (level + 1) item ++
      (prettyItems (level + 1) items ++ newLine level))) := by
  induction items generalizing item with
  | nil =>
      rw [prettyItems]
      exact .last (.intro (blank_newLine _) ((writable item List.mem_cons_self).pretty _)
        (blank_newLine level))
  | cons next items ih =>
      have first := Padded.intro (blank_newLine (level + 1))
        ((writable item List.mem_cons_self).pretty (level + 1)) blank_nil
      have others := SpellsItems.more first
        (ih fun other member => writable other (List.mem_cons_of_mem item member))
      rw [prettyItems]
      simpa only [List.append_assoc, List.cons_append, List.nil_append, List.append_nil]
        using others

theorem Writable.array {items : List Json} (writable : ∀ item ∈ items, Writable item) :
    Writable (.array items) := by
  cases items with
  | nil =>
      refine ⟨?_, fun _ => ?_⟩
      · rw [Json.compact, compactItems]
        exact .emptyArray blank_nil
      · rw [Json.pretty]
        exact .emptyArray blank_nil
  | cons item items =>
      constructor
      · rw [Json.compact]
        exact .array (spells_compactItems writable)
      · intro level
        have spelled := Spells.array (spells_prettyItems level writable)
        rw [Json.pretty]
        simpa only [List.append_assoc, List.cons_append] using spelled

def lettered (member : String × Json) : List Letter × Json :=
  (member.1.toList.map .char, member.2)

theorem spellsMember_lettered {before text : List Char} (blank : Blank before)
    (member : String × Json) (padded : Padded member.2 text) :
    SpellsMember (lettered member)
      (before ++ (writeString (lettered member).1 ++ ':' :: text)) := by
  have spelled := SpellsMember.intro blank (spellsLetters_text member.1.toList) blank_nil padded
  simpa only [lettered, writeString, List.append_assoc, List.cons_append, List.nil_append]
    using spelled

theorem spells_compactMembers {member : String × Json} {members : List (String × Json)}
    (writable : ∀ other ∈ member :: members, Writable other.2) :
    SpellsMembers ((member :: members).map lettered)
      (compactMembers ((member :: members).map lettered)) := by
  induction members generalizing member with
  | nil =>
      exact .last (spellsMember_lettered blank_nil member
        (writable member List.mem_cons_self).compact.unpadded)
  | cons next members ih =>
      have first := spellsMember_lettered blank_nil member
        (writable member List.mem_cons_self).compact.unpadded
      rw [List.map_cons, compactMembers]
      · exact .more first
          (ih fun other present => writable other (List.mem_cons_of_mem member present))
      · exact List.cons_ne_nil (lettered next) (members.map lettered)

theorem spells_prettyMembers {member : String × Json} {members : List (String × Json)}
    (level : Nat) (writable : ∀ other ∈ member :: members, Writable other.2) :
    SpellsMembers ((member :: members).map lettered) (newLine (level + 1) ++
      (writeString (lettered member).1 ++ ':' :: ' ' :: (pretty (level + 1) member.2 ++
        (prettyMembers (level + 1) (members.map lettered) ++ newLine level)))) := by
  have space : Blank [' '] := by
    decide
  induction members generalizing member with
  | nil =>
      have value := Padded.intro space ((writable member List.mem_cons_self).pretty (level + 1))
        (blank_newLine level)
      exact .last (spellsMember_lettered (blank_newLine _) member value)
  | cons next members ih =>
      have value := Padded.intro space ((writable member List.mem_cons_self).pretty (level + 1))
        blank_nil
      have spelled := SpellsMembers.more
        (spellsMember_lettered (blank_newLine (level + 1)) member value)
        (ih fun other present => writable other (List.mem_cons_of_mem member present))
      have onward : prettyMembers (level + 1) ((next :: members).map lettered) =
          ',' :: newLine (level + 1) ++ writeString (lettered next).1 ++ ':' :: ' ' ::
            pretty (level + 1) next.2 ++ prettyMembers (level + 1) (members.map lettered) := by
        rw [List.map_cons, lettered, prettyMembers]
      rw [List.map_cons, onward]
      simpa only [List.append_assoc, List.cons_append, List.nil_append, List.append_nil]
        using spelled

theorem record_eq (members : List (String × Json)) :
    record members = object (members.map lettered) :=
  rfl

theorem Writable.record {members : List (String × Json)}
    (writable : ∀ member ∈ members, Writable member.2) : Writable (record members) := by
  cases members with
  | nil =>
      refine ⟨?_, fun _ => ?_⟩
      · rw [record_eq, List.map_nil, Json.compact, compactMembers]
        exact .emptyObject blank_nil
      · rw [record_eq, List.map_nil, Json.pretty]
        exact .emptyObject blank_nil
  | cons member members =>
      constructor
      · rw [record_eq, Json.compact]
        exact .object (spells_compactMembers writable)
      · intro level
        have spelled := Spells.object (spells_prettyMembers level writable)
        have written : (Json.record (member :: members)).pretty level =
            '{' :: newLine (level + 1) ++ writeString (lettered member).1 ++ ':' :: ' ' ::
              member.2.pretty (level + 1) ++ prettyMembers (level + 1) (members.map lettered) ++
                newLine level ++ ['}'] := by
          rw [record_eq, List.map_cons, lettered, Json.pretty]
        rw [written, record_eq]
        simpa only [List.append_assoc, List.cons_append] using spelled

end Json
end ReactiveGraph
