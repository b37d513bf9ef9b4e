import ReactiveGraph.Json.Parser
import ReactiveGraph.Proofs.Spelling

namespace ReactiveGraph

/-!
# Reading what is spelled

Every text that spells a value is read as that value, however it is spelled.
Each reader is given the text of what it reads with something behind it, and
returns what was spelled together with what is behind.  Only a number can be
misled by what follows it, and nothing that may follow a number does so.
-/

namespace Json

theorem isBlank_iff (c : Char) : isBlank c = true ↔ c ∈ [' ', '\t', '\n', '\r'] := by
  simp [isBlank, or_assoc]

theorem skipBlanks_append {gap : List Char} (blank : Blank gap) (text : List Char) :
    skipBlanks (gap ++ text) = skipBlanks text :=
  List.dropWhile_append_of_pos fun c member => (isBlank_iff c).mpr (blank c member)

theorem skipBlanks_cons {c : Char} (token : isBlank c = false) (text : List Char) :
    skipBlanks (c :: text) = c :: text :=
  List.dropWhile_cons_of_neg (by rw [token]; exact Bool.false_ne_true)

theorem skipBlanks_token {gap : List Char} (blank : Blank gap) {c : Char}
    (token : isBlank c = false) (text : List Char) : skipBlanks (gap ++ c :: text) = c :: text :=
  (skipBlanks_append blank (c :: text)).trans (skipBlanks_cons token text)

/-- A text between a pair of brackets or quotes is all in front of the closing
one. -/
theorem skipBlanks_enclosed {opening : Char} (token : isBlank opening = false)
    (inner : List Char) (closing : Char) (rest : List Char) :
    skipBlanks (opening :: (inner ++ [closing]) ++ rest) =
      opening :: (inner ++ closing :: rest) := by
  rw [List.cons_append, List.append_assoc, List.singleton_append, skipBlanks_cons token]

theorem hexValue?_of_isHex {digit : Char} {value : Nat} (hex : IsHex digit value) :
    hexValue? digit = some value := by
  have lower : ∀ value < 16, ("0123456789abcdef".toList[value]?).bind hexValue? = some value := by
    decide
  have upper : ∀ value < 16, ("0123456789ABCDEF".toList[value]?).bind hexValue? = some value := by
    decide
  have inside := hex.lt
  rcases hex with found | found
  · have known := lower value inside
    rwa [found] at known
  · have known := upper value inside
    rwa [found] at known

/-- No character has the code unit of half a surrogate pair. -/
theorem not_surrogate (c : Char) : (isLead c.toNat || isTrail c.toNat) = false := by
  have valid : c.toNat.isValidChar := c.valid
  rw [Bool.or_eq_false_iff, isLead, isTrail]
  rcases valid with low | ⟨high, _⟩
  · constructor <;> simp <;> omega
  · constructor <;> simp <;> omega

theorem isSurrogate {unit : Nat} (lowest : 0xD800 ≤ unit) (highest : unit ≤ 0xDFFF) :
    (isLead unit || isTrail unit) = true := by
  simp only [isLead, isTrail, Bool.or_eq_true, Bool.and_eq_true, decide_eq_true_eq]
  omega

theorem unitLetter?_of_isUnit {a b c d : Char} {first second third fourth : Nat}
    {letter : Letter}
    (digits : IsHex a first ∧ IsHex b second ∧ IsHex c third ∧ IsHex d fourth)
    (valued : IsUnit (((first * 16 + second) * 16 + third) * 16 + fourth) letter) :
    unitLetter? a b c d = some letter := by
  rcases digits with ⟨isFirst, isSecond, isThird, isFourth⟩
  rw [unitLetter?, hexValue?_of_isHex isFirst, hexValue?_of_isHex isSecond,
    hexValue?_of_isHex isThird, hexValue?_of_isHex isFourth]
  change some _ = some letter
  cases valued with
  | surrogate lowest highest =>
      rw [if_pos (isSurrogate lowest highest)]
  | char c same =>
      have whole := not_surrogate c
      rw [same] at whole
      rw [whole, if_neg Bool.false_ne_true, ← same, Char.ofNat_toNat]

theorem readLetters_letter {letter : Letter} {text : List Char}
    (spelled : SpellsLetter letter text) (rest : List Char) :
    readLetters (text ++ rest) =
      (readLetters rest).map fun answer => (letter :: answer.1, answer.2) := by
  cases spelled with
  | plain c printing unquoted unescaped =>
      have allowed : (decide (c = '\\') || decide (c.toNat < 0x20)) = false := by
        simp [unescaped, printing]
      rw [List.singleton_append, readLetters]
      · rw [allowed, if_neg Bool.false_ne_true]
        cases readLetters rest <;> rfl
      · exact unquoted
      · exact fun _ _ _ _ _ slash _ => unescaped slash
      · exact fun _ _ slash _ => unescaped slash
  | short escape c listed =>
      have table : ∀ entry ∈ shortEscapes, escaped? entry.1 = some entry.2 ∧ entry.1 ≠ 'u' := by
        decide
      rcases table _ listed with ⟨stands, single⟩
      rw [List.cons_append, List.singleton_append, readLetters]
      · rw [stands]
        cases readLetters rest <;> rfl
      · exact fun _ _ _ _ _ unit _ => single unit
  | unit digits valued =>
      simp only [List.cons_append, List.nil_append]
      rw [readLetters, unitLetter?_of_isUnit digits valued]
      cases readLetters rest <;> rfl

theorem readLetters_spelled {letters : List Letter} {text : List Char}
    (spelled : SpellsLetters letters text) (rest : List Char) :
    readLetters (text ++ '"' :: rest) = some (letters, rest) := by
  induction spelled with
  | nil => rfl
  | cons first _ ih =>
      rw [List.append_assoc, readLetters_letter first, ih]
      rfl

/-! ## Numbers -/

/-- The text does not begin with a character of the given kind. -/
def Off (kind : Char → Bool) (text : List Char) : Prop :=
  ∀ c, text.head? = some c → kind c = false

/-- Whether a number could go on with the character. -/
def extendsNumber (c : Char) : Bool :=
  c.isDigit || c = '.' || c = 'e' || c = 'E'

theorem off_nil (kind : Char → Bool) : Off kind [] :=
  fun _ none => nomatch none

theorem off_cons {kind : Char → Bool} {c : Char} (other : kind c = false) (text : List Char) :
    Off kind (c :: text) := by
  rintro _ ⟨⟩
  exact other

theorem Off.mono {kind narrower : Char → Bool} {text : List Char} (off : Off kind text)
    (narrow : ∀ c, kind c = false → narrower c = false) : Off narrower text :=
  fun c first => narrow c (off c first)

theorem readDigits_append {digits rest : List Char} (isDigits : Digits digits)
    (off : Off Char.isDigit rest) : readDigits (digits ++ rest) = some (digits, rest) := by
  have taken : (digits ++ rest).takeWhile Char.isDigit = digits := by
    rw [List.takeWhile_append_of_pos isDigits.digits]
    cases rest with
    | nil => exact List.append_nil digits
    | cons c rest => rw [List.takeWhile_cons_of_neg (by simp [off c rfl]), List.append_nil]
  have left : (digits ++ rest).dropWhile Char.isDigit = rest := by
    rw [List.dropWhile_append_of_pos isDigits.digits]
    cases rest with
    | nil => rfl
    | cons c rest => rw [List.dropWhile_cons_of_neg (by simp [off c rfl])]
  have some : digits.isEmpty = false := by
    rw [List.isEmpty_eq_false_iff]
    exact isDigits.some
  rw [readDigits, taken, left, some, if_neg Bool.false_ne_true]

theorem Digits.head {digits : List Char} (isDigits : Digits digits) :
    ∃ c rest, digits = c :: rest ∧ c.isDigit = true := by
  cases digits with
  | nil => exact absurd rfl isDigits.some
  | cons c rest => exact ⟨c, rest, rfl, isDigits.digits c List.mem_cons_self⟩

theorem IsWhole.digits {whole : List Char} (isWhole : IsWhole whole) : Digits whole := by
  rcases isWhole with rfl | ⟨digits, _⟩
  · exact ⟨List.cons_ne_nil _ _, List.forall_mem_singleton.mpr rfl⟩
  · exact digits

theorem readWhole_append {whole rest : List Char} (isWhole : IsWhole whole)
    (off : Off Char.isDigit rest) : readWhole (whole ++ rest) = some (whole, rest) := by
  have allowed : ¬(whole.head? = some '0' ∧ whole.length ≠ 1) := by
    rintro ⟨zero, longer⟩
    rcases isWhole with rfl | ⟨_, nonzero⟩
    · exact longer rfl
    · exact nonzero zero
  rw [readWhole, readDigits_append isWhole.digits off, Option.bind_eq_bind, Option.bind_some]
  exact if_neg (by simpa using allowed)

theorem readFraction_append {fraction rest : List Char} (isFraction : IsFraction fraction)
    (off : Off (fun c => c.isDigit || c = '.') rest) :
    readFraction (fraction ++ rest) = some (fraction, rest) := by
  rcases isFraction with rfl | ⟨digits, isDigits, rfl⟩
  · rw [List.nil_append, readFraction]
    rintro text rfl
    have := off '.' rfl
    exact absurd this (by decide)
  · have digitless := off.mono fun c other => (Bool.or_eq_false_iff.mp other).1
    rw [List.cons_append, readFraction, readDigits_append isDigits digitless]
    rfl

theorem readExponentSign_append {sign digits : List Char} (signs : sign ∈ [[], ['+'], ['-']])
    (isDigits : Digits digits) (rest : List Char) :
    readExponentSign (sign ++ (digits ++ rest)) = (sign, digits ++ rest) := by
  simp only [List.mem_cons, List.not_mem_nil, or_false] at signs
  rcases signs with rfl | rfl | rfl
  · rcases isDigits.head with ⟨c, others, rfl, digit⟩
    rw [List.nil_append, List.cons_append, readExponentSign]
    · rintro _ ⟨⟩
      exact absurd digit (by decide)
    · rintro _ ⟨⟩
      exact absurd digit (by decide)
  · rfl
  · rfl

theorem readExponent_append {exponent rest : List Char} (isExponent : IsExponent exponent)
    (off : Off extendsNumber rest) :
    readExponent (exponent ++ rest) = some (exponent, rest) := by
  rcases isExponent with rfl | ⟨mark, marks, sign, signs, digits, isDigits, rfl⟩
  · cases rest with
    | nil => rfl
    | cons c rest =>
        have other := off c rfl
        simp only [extendsNumber, Bool.or_eq_false_iff] at other
        rw [List.nil_append, readExponent, other.1.2, other.2]
        rfl
  · have digitless : Off Char.isDigit rest := by
      apply off.mono
      intro c other
      simp only [extendsNumber, Bool.or_eq_false_iff] at other
      exact other.1.1.1
    have marked : (decide (mark = 'e') || decide (mark = 'E')) = true := by
      simpa using marks
    rw [List.cons_append, List.append_assoc, readExponent, if_pos marked,
      readExponentSign_append signs isDigits]
    dsimp only
    rw [readDigits_append isDigits digitless]
    rfl

theorem IsExponent.off {exponent rest : List Char} (isExponent : IsExponent exponent)
    (off : Off extendsNumber rest) : Off (fun c => c.isDigit || c = '.') (exponent ++ rest) := by
  rcases isExponent with rfl | ⟨mark, marks, sign, _, digits, _, rfl⟩
  · apply off.mono
    intro c other
    simp only [extendsNumber, Bool.or_eq_false_iff] at other ⊢
    exact other.1.1
  · apply off_cons
    simp only [List.mem_cons, List.not_mem_nil, or_false] at marks
    rcases marks with rfl | rfl <;> decide

theorem IsFraction.off {fraction rest : List Char} (isFraction : IsFraction fraction)
    (off : Off (fun c => c.isDigit || c = '.') rest) : Off Char.isDigit (fraction ++ rest) := by
  rcases isFraction with rfl | ⟨digits, _, rfl⟩
  · exact off.mono fun c other => (Bool.or_eq_false_iff.mp other).1
  · exact off_cons (by decide) _

theorem readNumber_append {literal rest : List Char} (isNumber : IsNumber literal)
    (off : Off extendsNumber rest) : readNumber (literal ++ rest) = some (literal, rest) := by
  rcases isNumber with @⟨sign, whole, fraction, exponent, signed, isWhole, isFraction, isExponent⟩
  have unsigned : readUnsigned (whole ++ (fraction ++ (exponent ++ rest))) =
      some (whole ++ fraction ++ exponent, rest) := by
    have pointless := isExponent.off off
    simp only [readUnsigned, readWhole_append isWhole (isFraction.off pointless),
      readFraction_append isFraction pointless, readExponent_append isExponent off,
      Option.bind_eq_bind, Option.bind_some, Option.pure_def]
  simp only [List.mem_cons, List.not_mem_nil, or_false] at signed
  simp only [List.append_assoc] at unsigned ⊢
  rcases signed with rfl | rfl
  · rcases isWhole.digits.head with ⟨c, others, rfl, digit⟩
    rw [List.nil_append, List.cons_append, readNumber]
    · exact unsigned
    · rintro _ ⟨⟩
      exact absurd digit (by decide)
  · rw [List.cons_append, List.nil_append, readNumber, unsigned]
    rfl

/-- The first character of a number tells it from every other value. -/
theorem IsNumber.head {literal : List Char} (isNumber : IsNumber literal) :
    ∃ c rest, literal = c :: rest ∧ (c = '-' ∨ c.isDigit = true) := by
  rcases isNumber with @⟨sign, whole, fraction, exponent, signed, isWhole, isFraction, isExponent⟩
  simp only [List.mem_cons, List.not_mem_nil, or_false] at signed
  rcases signed with rfl | rfl
  · rcases isWhole.digits.head with ⟨c, others, rfl, digit⟩
    exact ⟨c, _, rfl, Or.inr digit⟩
  · exact ⟨'-', _, rfl, Or.inl rfl⟩

theorem readScalar_number {literal rest : List Char} (isNumber : IsNumber literal)
    (off : Off extendsNumber rest) :
    readScalar (literal ++ rest) = some (number literal, rest) := by
  have read := readNumber_append isNumber off
  rcases isNumber.head with ⟨c, others, rfl, first⟩
  have other : c ≠ 'n' ∧ c ≠ 't' ∧ c ≠ 'f' := by
    refine ⟨?_, ?_, ?_⟩ <;>
    · rintro rfl
      exact absurd first (by decide)
  rw [List.cons_append, readScalar]
  · rw [← List.cons_append, read]
    rfl
  · exact fun _ same => other.1 (List.cons.inj same).1
  · exact fun _ same => other.2.1 (List.cons.inj same).1
  · exact fun _ same => other.2.2 (List.cons.inj same).1

/-! ## Values -/

/-- What readers that nest as deep as `fuel` allows make of the texts for which
that is enough.  A list starts where its first item does, and so it needs one
level more than a value of the same length. -/
structure Reads (fuel : Nat) : Prop where
  value : ∀ {json : Json} {text : List Char}, Spells json text → 2 * text.length ≤ fuel →
    ∀ {gap rest : List Char}, Blank gap → Off extendsNumber rest →
      readValue fuel (gap ++ (text ++ rest)) = some (json, rest)
  items : ∀ {items : List Json} {text : List Char}, SpellsItems items text →
    2 * text.length < fuel → ∀ rest : List Char,
      readItems fuel (text ++ ']' :: rest) = some (items, rest)
  members : ∀ {members : List (List Letter × Json)} {text : List Char},
    SpellsMembers members text → 2 * text.length < fuel → ∀ rest : List Char,
      readMembers fuel (text ++ '}' :: rest) = some (members, rest)

/-- A value starts with a character that is neither a blank nor the end of a
list. -/
theorem Spells.head {json : Json} {text : List Char} (spelled : Spells json text) :
    ∃ c rest, text = c :: rest ∧ isBlank c = false ∧ c ≠ ']' := by
  cases spelled with
  | number isNumber =>
      rcases isNumber.head with ⟨c, rest, rfl, first⟩
      refine ⟨c, rest, rfl, ?_, ?_⟩
      · apply Bool.eq_false_iff.mpr
        intro blank
        simp only [isBlank_iff, List.mem_cons, List.not_mem_nil, or_false] at blank
        rcases blank with rfl | rfl | rfl | rfl <;> exact absurd first (by decide)
      · rintro rfl
        exact absurd first (by decide)
  | _ => exact ⟨_, _, rfl, by decide, by decide⟩

theorem Padded.head {json : Json} {text : List Char} (padded : Padded json text) :
    ∃ gap c rest, text = gap ++ c :: rest ∧ Blank gap ∧ isBlank c = false ∧ c ≠ ']' := by
  rcases padded with ⟨blankBefore, spelled, _⟩
  rcases spelled.head with ⟨c, rest, rfl, others⟩
  exact ⟨_, c, _, rfl, blankBefore, others⟩

theorem SpellsItems.head {items : List Json} {text : List Char} (spelled : SpellsItems items text) :
    ∃ gap c rest, text = gap ++ c :: rest ∧ Blank gap ∧ isBlank c = false ∧ c ≠ ']' := by
  cases spelled with
  | last padded => exact padded.head
  | more padded _ =>
      rcases padded.head with ⟨gap, c, rest, rfl, others⟩
      exact ⟨gap, c, _, List.append_assoc _ _ _, others⟩

theorem SpellsMembers.head {members : List (List Letter × Json)} {text : List Char}
    (spelled : SpellsMembers members text) : ∃ gap rest, text = gap ++ '"' :: rest ∧ Blank gap := by
  cases spelled with
  | last member =>
      rcases member with ⟨blankBefore, _, _, _⟩
      exact ⟨_, _, rfl, blankBefore⟩
  | more member _ =>
      rcases member with ⟨blankBefore, _, _, _⟩
      exact ⟨_, _, List.append_assoc _ _ _, blankBefore⟩

/-- The blanks behind a value are left for the next reader. -/
theorem Reads.padded {fuel : Nat} (reads : Reads fuel) {json : Json} {text : List Char}
    (padded : Padded json text) (enough : 2 * text.length ≤ fuel) {rest : List Char}
    (off : Off extendsNumber rest) :
    ∃ gap, Blank gap ∧ readValue fuel (text ++ rest) = some (json, gap ++ rest) := by
  rcases padded with @⟨_, before, text, after, blankBefore, spelled, blankAfter⟩
  refine ⟨after, blankAfter, ?_⟩
  have offAfter : Off extendsNumber (after ++ rest) := by
    cases after with
    | nil => exact off
    | cons c after =>
        apply off_cons
        have blank := blankAfter c List.mem_cons_self
        simp only [List.mem_cons, List.not_mem_nil, or_false] at blank
        rcases blank with rfl | rfl | rfl | rfl <;> rfl
  simp only [List.length_append] at enough
  rw [List.append_assoc, List.append_assoc]
  exact reads.value spelled (by omega) blankBefore offAfter

theorem reads_zero : Reads 0 where
  value spelled enough := by
    rcases spelled.head with ⟨c, rest, rfl, _⟩
    exact absurd enough (Nat.not_le_of_lt (Nat.mul_pos (by decide) (Nat.succ_pos _)))
  items _ enough := absurd enough (Nat.not_lt_zero _)
  members _ enough := absurd enough (Nat.not_lt_zero _)

theorem Reads.succ_value {fuel : Nat} (reads : Reads fuel) {json : Json} {text : List Char}
    (spelled : Spells json text) (enough : 2 * text.length ≤ fuel + 1) {gap rest : List Char}
    (blank : Blank gap) (off : Off extendsNumber rest) :
    readValue (fuel + 1) (gap ++ (text ++ rest)) = some (json, rest) := by
  rw [readValue, skipBlanks_append blank]
  -- the first character tells what is to be read
  cases spelled with
  | null => rfl
  | isTrue => rfl
  | isFalse => rfl
  | number isNumber =>
      have read := readScalar_number isNumber off
      rcases isNumber.head with ⟨c, others, rfl, first⟩
      rcases (Spells.number isNumber).head with ⟨_, _, ⟨⟩, token, _⟩
      have other : c ≠ '"' ∧ c ≠ '[' ∧ c ≠ '{' := by
        refine ⟨?_, ?_, ?_⟩ <;>
        · rintro rfl
          exact absurd first (by decide)
      rw [List.cons_append] at read ⊢
      rw [skipBlanks_cons token]
      split
      next same => exact absurd (List.cons.inj same).1 other.1
      next same => exact absurd (List.cons.inj same).1 other.2.1
      next same => exact absurd (List.cons.inj same).1 other.2.2
      next => exact read
  | string spelled =>
      rw [skipBlanks_enclosed (by decide)]
      simp only
      rw [readLetters_spelled spelled]
      rfl
  | emptyArray blankInside =>
      rw [skipBlanks_enclosed (by decide)]
      simp only
      rw [skipBlanks_token blankInside (by decide)]
      rfl
  | array spelled =>
      rcases spelled.head with ⟨before, c, others, same, blankBefore, token, unclosed⟩
      simp only [List.length_cons, List.length_append] at enough
      rw [skipBlanks_enclosed (by decide)]
      simp only
      rw [reads.items spelled (by omega), same, List.append_assoc, List.cons_append,
        skipBlanks_token blankBefore token]
      split
      next closes => exact absurd (List.cons.inj closes).1 unclosed
      next => rfl
  | emptyObject blankInside =>
      rw [skipBlanks_enclosed (by decide)]
      simp only
      rw [skipBlanks_token blankInside (by decide)]
      rfl
  | object spelled =>
      rcases spelled.head with ⟨before, others, same, blankBefore⟩
      simp only [List.length_cons, List.length_append] at enough
      rw [skipBlanks_enclosed (by decide)]
      simp only
      rw [reads.members spelled (by omega), same, List.append_assoc, List.cons_append,
        skipBlanks_token blankBefore (by decide)]
      rfl

theorem Reads.succ_items {fuel : Nat} (reads : Reads fuel) {items : List Json} {text : List Char}
    (spelled : SpellsItems items text) (enough : 2 * text.length < fuel + 1) (rest : List Char) :
    readItems (fuel + 1) (text ++ ']' :: rest) = some (items, rest) := by
  rw [readItems]
  cases spelled with
  | last padded =>
      have closed : Off extendsNumber (']' :: rest) := off_cons rfl rest
      rcases reads.padded padded (by omega) closed with ⟨gap, blank, read⟩
      rw [read]
      dsimp only
      rw [skipBlanks_token blank (by decide)]
      rfl
  | @more _ _ text others padded spelled =>
      have parted : Off extendsNumber (',' :: (others ++ ']' :: rest)) := off_cons rfl _
      simp only [List.length_append, List.length_cons] at enough
      rcases reads.padded padded (by omega) parted with ⟨gap, blank, read⟩
      rw [List.append_assoc, List.cons_append, read]
      dsimp only
      rw [skipBlanks_token blank (by decide)]
      simp only
      rw [reads.items spelled (by omega)]
      rfl

theorem readKey_spelled {key : List Letter} {before quoted after : List Char}
    (blankBefore : Blank before) (named : SpellsLetters key quoted) (blankAfter : Blank after)
    (rest : List Char) :
    readKey (before ++ '"' :: (quoted ++ '"' :: (after ++ ':' :: rest))) = some (key, rest) := by
  rw [readKey, skipBlanks_token blankBefore (by decide)]
  simp only
  rw [readLetters_spelled named]
  dsimp only
  rw [skipBlanks_token blankAfter (by decide)]
  rfl

theorem Reads.member {fuel : Nat} (reads : Reads fuel) {member : List Letter × Json}
    {text : List Char} (spelled : SpellsMember member text) (enough : 2 * text.length ≤ fuel)
    {rest : List Char} (off : Off extendsNumber rest) :
    ∃ gap valued, Blank gap ∧ readKey (text ++ rest) = some (member.1, valued) ∧
      readValue fuel valued = some (member.2, gap ++ rest) := by
  rcases spelled with @⟨key, value, before, quoted, after, text, blankBefore, named, blankAfter,
    padded⟩
  simp only [List.length_append, List.length_cons] at enough
  rcases reads.padded padded (by omega) off with ⟨gap, blank, read⟩
  refine ⟨gap, text ++ rest, blank, ?_, read⟩
  have key := readKey_spelled blankBefore named blankAfter (text ++ rest)
  simpa only [List.append_assoc, List.cons_append] using key

theorem Reads.succ_members {fuel : Nat} (reads : Reads fuel)
    {members : List (List Letter × Json)} {text : List Char}
    (spelled : SpellsMembers members text) (enough : 2 * text.length < fuel + 1)
    (rest : List Char) : readMembers (fuel + 1) (text ++ '}' :: rest) = some (members, rest) := by
  rw [readMembers]
  cases spelled with
  | last spelled =>
      have closed : Off extendsNumber ('}' :: rest) := off_cons rfl rest
      rcases reads.member spelled (by omega) closed with ⟨gap, valued, blank, key, read⟩
      rw [key]
      dsimp only
      rw [read]
      dsimp only
      rw [skipBlanks_token blank (by decide)]
      rfl
  | @more _ _ text others spelled further =>
      have parted : Off extendsNumber (',' :: (others ++ '}' :: rest)) := off_cons rfl _
      simp only [List.length_append, List.length_cons] at enough
      rcases reads.member spelled (by omega) parted with ⟨gap, valued, blank, key, read⟩
      rw [List.append_assoc, List.cons_append, key]
      dsimp only
      rw [read]
      dsimp only
      rw [skipBlanks_token blank (by decide)]
      simp only
      rw [reads.members further (by omega)]
      rfl

theorem reads (fuel : Nat) : Reads fuel := by
  induction fuel with
  | zero => exact reads_zero
  | succ fuel ih => exact ⟨ih.succ_value, ih.succ_items, ih.succ_members⟩

/-- A document is read as the value that it spells. -/
theorem parse?_of_padded {json : Json} {text : List Char} (padded : Padded json text) :
    parse? text = some json := by
  rcases (reads (2 * text.length + 2)).padded padded (by omega) (off_nil _) with ⟨gap, blank, read⟩
  have left : skipBlanks (gap ++ []) = [] := skipBlanks_append blank []
  rw [List.append_nil] at read
  rw [parse?, read]
  dsimp only
  rw [left, if_pos rfl]

section Documents

variable {β : Type} {value? : Json → Option β} {json : Json} {text : String}

/-- A document stands for what the value that it spells stands for. -/
theorem decode_of_padded (reason : String → String) (padded : Padded json text.toList) {value : β}
    (found : value? json = some value) : decode reason value? text = .ok value := by
  rw [decode, parse?_of_padded padded, Option.bind_some, found]

theorem decode_of_none (reason : String → String) (padded : Padded json text.toList)
    (unknown : value? json = none) :
    decode reason value? text = .error (.serialization (reason text)) := by
  rw [decode, parse?_of_padded padded, Option.bind_some, unknown]

end Documents

end Json
end ReactiveGraph
