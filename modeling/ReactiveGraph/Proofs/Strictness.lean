import Mathlib.Tactic.SplitIfs
import ReactiveGraph.Proofs.Reading

namespace ReactiveGraph

/-!
# What is not spelled is not read

Nothing but the grammar is accepted.  Whatever a reader has returned, what it
took of the text spells that.  So the documents that are read are those that
spell a value.
-/

namespace Json

theorem blank_takeWhile (text : List Char) : Blank (text.takeWhile isBlank) :=
  fun c member => (isBlank_iff c).mp (List.all_eq_true.mp List.all_takeWhile c member)

/-- Behind blanks the text goes on with what they were skipped for. -/
theorem of_skipBlanks {text rest : List Char} (found : skipBlanks text = rest) :
    ∃ gap, Blank gap ∧ text = gap ++ rest := by
  subst found
  exact ⟨_, blank_takeWhile text, List.takeWhile_append_dropWhile.symm⟩

theorem toNat_lt_of_hexValue? {digit : Char} {value : Nat} (found : hexValue? digit = some value) :
    digit.toNat < 128 := by
  have upTo : ∀ last : Char, digit ≤ last → last.toNat < 128 → digit.toNat < 128 :=
    fun last inside small => Nat.lt_of_le_of_lt (UInt32.le_iff_toNat_le.mp inside) small
  rw [hexValue?] at found
  split_ifs at found with number lower upper
  · simp only [Char.isDigit, Bool.and_eq_true, decide_eq_true_eq] at number
    exact upTo '9' number.2 (by decide)
  · simp only [Bool.and_eq_true, decide_eq_true_eq] at lower
    exact upTo 'f' lower.2 (by decide)
  · simp only [Bool.and_eq_true, decide_eq_true_eq] at upper
    exact upTo 'F' upper.2 (by decide)

theorem isHex_of_hexValue? {digit : Char} {value : Nat} (found : hexValue? digit = some value) :
    IsHex digit value := by
  have table : ∀ code < 128, (hexValue? (Char.ofNat code)).all
      fun value => decide (IsHex (Char.ofNat code) value) := by
    decide
  have known := table digit.toNat (toNat_lt_of_hexValue? found)
  rw [Char.ofNat_toNat, found] at known
  exact of_decide_eq_true known

theorem isUnit_ofNat {unit : Nat} (small : unit < 0x10000)
    (whole : ¬(isLead unit || isTrail unit) = true) : IsUnit unit (.char (Char.ofNat unit)) := by
  refine .char _ ?_
  have valid : unit.isValidChar := by
    simp only [isLead, isTrail, Bool.or_eq_true, Bool.and_eq_true, decide_eq_true_eq] at whole
    rw [Nat.isValidChar]
    omega
  rw [Char.ofNat, dif_pos valid]
  rfl

theorem of_unitLetter? {a b c d : Char} {letter : Letter}
    (found : unitLetter? a b c d = some letter) : SpellsLetter letter ['\\', 'u', a, b, c, d] := by
  simp only [unitLetter?, Option.bind_eq_bind, Option.bind_eq_some_iff, Option.pure_def,
    Option.some.injEq] at found
  rcases found with ⟨first, isFirst, second, isSecond, third, isThird, fourth, isFourth, valued⟩
  have isFirst := isHex_of_hexValue? isFirst
  have isSecond := isHex_of_hexValue? isSecond
  have isThird := isHex_of_hexValue? isThird
  have isFourth := isHex_of_hexValue? isFourth
  refine .unit ⟨isFirst, isSecond, isThird, isFourth⟩ ?_
  subst valued
  split
  next half =>
    simp only [isLead, isTrail, Bool.or_eq_true, Bool.and_eq_true, decide_eq_true_eq] at half
    exact .surrogate (by omega) (by omega)
  next whole =>
    have small : first < 16 ∧ second < 16 ∧ third < 16 ∧ fourth < 16 :=
      ⟨isFirst.lt, isSecond.lt, isThird.lt, isFourth.lt⟩
    exact isUnit_ofNat (by omega) whole

theorem of_escaped? {escape c : Char} (found : escaped? escape = some c) :
    SpellsLetter (.char c) ['\\', escape] := by
  refine .short escape c ?_
  rw [escaped?] at found
  split_ifs at found with own b f n r t
  · simp only [Bool.or_eq_true, decide_eq_true_eq] at own
    cases found
    rcases own with (rfl | rfl) | rfl <;> decide
  all_goals
    cases found
    subst escape
    decide

theorem of_readLetters {text rest : List Char} {letters : List Letter}
    (read : readLetters text = some (letters, rest)) :
    ∃ spelled, SpellsLetters letters spelled ∧ text = spelled ++ '"' :: rest := by
  fun_induction readLetters text generalizing letters rest with
  | case1 => cases read
  | case2 =>
      cases read
      exact ⟨[], .nil, rfl⟩
  | case3 a b c d later ih =>
      -- a code unit
      simp only [Option.bind_eq_bind, Option.bind_eq_some_iff, Option.pure_def,
        Option.some.injEq] at read
      rcases read with ⟨letter, found, ⟨others, behind⟩, onward, same⟩
      rcases ih onward with ⟨spelled, isSpelled, rfl⟩
      cases same
      exact ⟨_, .cons (of_unitLetter? found) isSpelled, rfl⟩
  | case4 c later other ih =>
      -- a short escape
      simp only [Option.bind_eq_bind, Option.bind_eq_some_iff, Option.pure_def,
        Option.some.injEq] at read
      rcases read with ⟨letter, found, ⟨others, behind⟩, onward, same⟩
      rcases ih onward with ⟨spelled, isSpelled, rfl⟩
      cases same
      exact ⟨_, .cons (of_escaped? found) isSpelled, rfl⟩
  | case5 => cases read
  | case6 c later unquoted _ _ allowed ih =>
      -- a character by itself
      simp only [Option.bind_eq_bind, Option.bind_eq_some_iff, Option.pure_def,
        Option.some.injEq] at read
      rcases read with ⟨⟨others, behind⟩, onward, same⟩
      rcases ih onward with ⟨spelled, isSpelled, rfl⟩
      cases same
      simp only [Bool.or_eq_true, decide_eq_true_eq, not_or, Nat.not_lt] at allowed
      exact ⟨_, .cons (.plain c allowed.2 unquoted allowed.1) isSpelled, rfl⟩

theorem of_readDigits {text digits rest : List Char}
    (read : readDigits text = some (digits, rest)) :
    Digits digits ∧ text = digits ++ rest := by
  rw [readDigits] at read
  split at read
  next => cases read
  next some =>
    cases read
    have nonempty : text.takeWhile Char.isDigit ≠ [] :=
      fun empty => some (List.isEmpty_iff.mpr empty)
    have digits : ∀ c ∈ text.takeWhile Char.isDigit, c.isDigit = true :=
      List.all_eq_true.mp List.all_takeWhile
    exact ⟨⟨nonempty, digits⟩, List.takeWhile_append_dropWhile.symm⟩

theorem of_readWhole {text whole rest : List Char} (read : readWhole text = some (whole, rest)) :
    IsWhole whole ∧ text = whole ++ rest := by
  rcases Option.bind_eq_some_iff.mp read with ⟨⟨digits, behind⟩, taken, kept⟩
  rcases of_readDigits taken with ⟨isDigits, rfl⟩
  dsimp only at kept
  split at kept
  next => cases kept
  next allowed =>
    cases kept
    refine ⟨?_, rfl⟩
    by_cases zero : whole.head? = some '0'
    · have single : whole.length = 1 := by simpa [zero] using allowed
      rcases List.length_eq_one_iff.mp single with ⟨c, rfl⟩
      cases zero
      exact Or.inl rfl
    · exact Or.inr ⟨isDigits, zero⟩

theorem of_readFraction {text fraction rest : List Char}
    (read : readFraction text = some (fraction, rest)) :
    IsFraction fraction ∧ text = fraction ++ rest := by
  unfold readFraction at read
  split at read
  next others =>
    rcases Option.bind_eq_some_iff.mp read with ⟨⟨digits, behind⟩, taken, same⟩
    rcases of_readDigits taken with ⟨isDigits, rfl⟩
    cases same
    exact ⟨Or.inr ⟨digits, isDigits, rfl⟩, rfl⟩
  next =>
    cases read
    exact ⟨Or.inl rfl, rfl⟩

theorem of_readExponentSign {text sign rest : List Char}
    (read : readExponentSign text = (sign, rest)) :
    sign ∈ [[], ['+'], ['-']] ∧ text = sign ++ rest := by
  unfold readExponentSign at read
  split at read
  · cases read
    exact ⟨by decide, rfl⟩
  · cases read
    exact ⟨by decide, rfl⟩
  · cases read
    exact ⟨List.mem_cons_self, rfl⟩

theorem of_readExponent {text exponent rest : List Char}
    (read : readExponent text = some (exponent, rest)) :
    IsExponent exponent ∧ text = exponent ++ rest := by
  cases text with
  | nil =>
      cases read
      exact ⟨Or.inl rfl, rfl⟩
  | cons mark others =>
      rw [readExponent] at read
      split at read
      next marked =>
        cases signed : readExponentSign others with
        | mk sign behind =>
            rw [signed] at read
            rcases of_readExponentSign signed with ⟨signs, rfl⟩
            rcases Option.bind_eq_some_iff.mp read with ⟨⟨digits, _⟩, taken, same⟩
            rcases of_readDigits taken with ⟨isDigits, rfl⟩
            cases same
            refine ⟨Or.inr ⟨mark, by simpa using marked, sign, signs, digits, isDigits, rfl⟩, ?_⟩
            simp only [List.cons_append, List.append_assoc]
      next =>
        cases read
        exact ⟨Or.inl rfl, rfl⟩

theorem of_readUnsigned {text literal rest : List Char}
    (read : readUnsigned text = some (literal, rest)) :
    ∃ whole fraction exponent, IsWhole whole ∧ IsFraction fraction ∧ IsExponent exponent ∧
      literal = whole ++ (fraction ++ exponent) ∧ text = literal ++ rest := by
  rcases Option.bind_eq_some_iff.mp read with ⟨⟨whole, _⟩, first, read⟩
  rcases Option.bind_eq_some_iff.mp read with ⟨⟨fraction, _⟩, second, read⟩
  rcases Option.bind_eq_some_iff.mp read with ⟨⟨exponent, _⟩, third, same⟩
  rcases of_readWhole first with ⟨isWhole, rfl⟩
  rcases of_readFraction second with ⟨isFraction, rfl⟩
  rcases of_readExponent third with ⟨isExponent, rfl⟩
  cases same
  refine ⟨whole, fraction, exponent, isWhole, isFraction, isExponent, ?_, ?_⟩
  · rw [List.append_assoc]
  · simp only [List.append_assoc]

theorem of_readNumber {text literal rest : List Char}
    (read : readNumber text = some (literal, rest)) :
    IsNumber literal ∧ text = literal ++ rest := by
  unfold readNumber at read
  split at read
  next others =>
    rcases Option.bind_eq_some_iff.mp read with ⟨⟨unsigned, behind⟩, taken, same⟩
    rcases of_readUnsigned taken with ⟨whole, fraction, exponent, isWhole, isFraction, isExponent,
      rfl, rfl⟩
    cases same
    exact ⟨.intro (List.mem_cons_of_mem _ List.mem_cons_self) isWhole isFraction isExponent, rfl⟩
  next =>
    rcases of_readUnsigned read with ⟨whole, fraction, exponent, isWhole, isFraction, isExponent,
      rfl, split⟩
    exact ⟨.intro List.mem_cons_self isWhole isFraction isExponent, split⟩

theorem of_readScalar {text rest : List Char} {json : Json}
    (read : readScalar text = some (json, rest)) :
    ∃ spelled, Spells json spelled ∧ text = spelled ++ rest := by
  unfold readScalar at read
  split at read
  next =>
    cases read
    exact ⟨_, .null, rfl⟩
  next =>
    cases read
    exact ⟨_, .isTrue, rfl⟩
  next =>
    cases read
    exact ⟨_, .isFalse, rfl⟩
  next =>
    rcases Option.map_eq_some_iff.mp read with ⟨⟨literal, behind⟩, taken, same⟩
    rcases of_readNumber taken with ⟨isNumber, rfl⟩
    cases same
    exact ⟨literal, .number isNumber, rfl⟩

/-! ## Values -/

/-- Whatever readers that nest as deep as `fuel` allows have returned is spelled
by what they took. -/
structure Strict (fuel : Nat) : Prop where
  value : ∀ {text rest : List Char} {json : Json}, readValue fuel text = some (json, rest) →
    ∃ gap spelled, Blank gap ∧ Spells json spelled ∧ text = gap ++ (spelled ++ rest)
  items : ∀ {text rest : List Char} {items : List Json},
    readItems fuel text = some (items, rest) →
      ∃ spelled, SpellsItems items spelled ∧ text = spelled ++ ']' :: rest
  members : ∀ {text rest : List Char} {members : List (List Letter × Json)},
    readMembers fuel text = some (members, rest) →
      ∃ spelled, SpellsMembers members spelled ∧ text = spelled ++ '}' :: rest

theorem strict_zero : Strict 0 where
  value read := by
    rw [readValue] at read
    cases read
  items read := by
    rw [readItems] at read
    cases read
  members read := by
    rw [readMembers] at read
    cases read

theorem of_readKey {text rest : List Char} {key : List Letter}
    (read : readKey text = some (key, rest)) :
    ∃ before quoted after, Blank before ∧ SpellsLetters key quoted ∧ Blank after ∧
      text = before ++ '"' :: (quoted ++ '"' :: (after ++ ':' :: rest)) := by
  unfold readKey at read
  split at read
  next opening =>
    split at read
    next letters later taken =>
      split at read
      next colon =>
        cases read
        rcases of_skipBlanks opening with ⟨before, blankBefore, rfl⟩
        rcases of_readLetters taken with ⟨quoted, named, rfl⟩
        rcases of_skipBlanks colon with ⟨after, blankAfter, rfl⟩
        exact ⟨before, quoted, after, blankBefore, named, blankAfter, rfl⟩
      next => cases read
    next => cases read
  next => cases read

theorem Strict.succ_value {fuel : Nat} (strict : Strict fuel) {text rest : List Char} {json : Json}
    (read : readValue (fuel + 1) text = some (json, rest)) :
    ∃ gap spelled, Blank gap ∧ Spells json spelled ∧ text = gap ++ (spelled ++ rest) := by
  rw [readValue] at read
  split at read
  next later opening =>
    rcases of_skipBlanks opening with ⟨gap, blank, rfl⟩
    rcases Option.map_eq_some_iff.mp read with ⟨⟨letters, behind⟩, taken, same⟩
    rcases of_readLetters taken with ⟨quoted, named, rfl⟩
    cases same
    exact ⟨gap, _, blank, .string named, by simp⟩
  next later opening =>
    rcases of_skipBlanks opening with ⟨gap, blank, rfl⟩
    split at read
    next closing =>
      rcases of_skipBlanks closing with ⟨inside, blankInside, rfl⟩
      cases read
      exact ⟨gap, _, blank, .emptyArray blankInside, by simp⟩
    next =>
      rcases Option.map_eq_some_iff.mp read with ⟨⟨items, behind⟩, taken, same⟩
      rcases strict.items taken with ⟨spelled, isSpelled, rfl⟩
      cases same
      exact ⟨gap, _, blank, .array isSpelled, by simp⟩
  next later opening =>
    rcases of_skipBlanks opening with ⟨gap, blank, rfl⟩
    split at read
    next closing =>
      rcases of_skipBlanks closing with ⟨inside, blankInside, rfl⟩
      cases read
      exact ⟨gap, _, blank, .emptyObject blankInside, by simp⟩
    next =>
      rcases Option.map_eq_some_iff.mp read with ⟨⟨members, behind⟩, taken, same⟩
      rcases strict.members taken with ⟨spelled, isSpelled, rfl⟩
      cases same
      exact ⟨gap, _, blank, .object isSpelled, by simp⟩
  next =>
    rcases of_readScalar read with ⟨spelled, isSpelled, split⟩
    rcases of_skipBlanks split with ⟨gap, blank, rfl⟩
    exact ⟨gap, spelled, blank, isSpelled, rfl⟩

/-- A value and the blanks on both sides of it. -/
theorem padded_between {json : Json} {before spelled after : List Char} (blankBefore : Blank before)
    (isSpelled : Spells json spelled) (blankAfter : Blank after) (rest : List Char) :
    ∃ text, Padded json text ∧ before ++ (spelled ++ (after ++ rest)) = text ++ rest :=
  ⟨_, .intro blankBefore isSpelled blankAfter, by simp⟩

theorem Strict.succ_items {fuel : Nat} (strict : Strict fuel) {text rest : List Char}
    {items : List Json} (read : readItems (fuel + 1) text = some (items, rest)) :
    ∃ spelled, SpellsItems items spelled ∧ text = spelled ++ ']' :: rest := by
  rw [readItems] at read
  split at read
  next => cases read
  next item later taken =>
    rcases strict.value taken with ⟨before, spelled, blankBefore, isSpelled, rfl⟩
    split at read
    next closing =>
      rcases of_skipBlanks closing with ⟨after, blankAfter, rfl⟩
      rcases padded_between blankBefore isSpelled blankAfter (']' :: _) with ⟨text, padded, same⟩
      cases read
      exact ⟨text, .last padded, same⟩
    next others comma =>
      rcases of_skipBlanks comma with ⟨after, blankAfter, rfl⟩
      rcases padded_between blankBefore isSpelled blankAfter (',' :: others) with
        ⟨text, padded, same⟩
      rcases Option.map_eq_some_iff.mp read with ⟨⟨items, behind⟩, onward, ⟨⟩⟩
      rcases strict.items onward with ⟨further, spelledFurther, rfl⟩
      refine ⟨_, .more padded spelledFurther, ?_⟩
      rw [same, List.append_assoc, List.cons_append]
    next => cases read

theorem Strict.succ_members {fuel : Nat} (strict : Strict fuel) {text rest : List Char}
    {members : List (List Letter × Json)}
    (read : readMembers (fuel + 1) text = some (members, rest)) :
    ∃ spelled, SpellsMembers members spelled ∧ text = spelled ++ '}' :: rest := by
  rw [readMembers] at read
  split at read
  next => cases read
  next key valued keyed =>
    rcases of_readKey keyed with ⟨front, quoted, colon, blankFront, named, blankColon, rfl⟩
    split at read
    next => cases read
    next value later taken =>
      rcases strict.value taken with ⟨before, spelled, blankBefore, isSpelled, rfl⟩
      split at read
      next closing =>
        rcases of_skipBlanks closing with ⟨after, blankAfter, rfl⟩
        rcases padded_between blankBefore isSpelled blankAfter ('}' :: _) with ⟨text, padded, same⟩
        cases read
        refine ⟨_, .last (.intro blankFront named blankColon padded), ?_⟩
        rw [same]
        simp
      next others comma =>
        rcases of_skipBlanks comma with ⟨after, blankAfter, rfl⟩
        rcases padded_between blankBefore isSpelled blankAfter (',' :: others) with
          ⟨text, padded, same⟩
        rcases Option.map_eq_some_iff.mp read with ⟨⟨members, behind⟩, onward, ⟨⟩⟩
        rcases strict.members onward with ⟨further, spelledFurther, rfl⟩
        refine ⟨_, .more (.intro blankFront named blankColon padded) spelledFurther, ?_⟩
        rw [same]
        simp
      next => cases read

theorem strict (fuel : Nat) : Strict fuel := by
  induction fuel with
  | zero => exact strict_zero
  | succ fuel ih => exact ⟨ih.succ_value, ih.succ_items, ih.succ_members⟩

/-- The documents that are read are those that spell a value. -/
theorem parse?_eq_some_iff {text : List Char} {json : Json} :
    parse? text = some json ↔ Padded json text := by
  refine ⟨fun read => ?_, parse?_of_padded⟩
  rw [parse?] at read
  split at read
  next value rest taken =>
    split at read
    next finished =>
      rcases (strict _).value taken with ⟨gap, spelled, blank, isSpelled, split⟩
      rcases of_skipBlanks finished with ⟨after, blankAfter, rfl⟩
      cases read
      rw [split, List.append_nil]
      exact .intro blank isSpelled blankAfter
    next => cases read
  next => cases read

theorem decode_of_unspelled {β : Type} (reason : String → String) (value? : Json → Option β)
    {text : String} (unspelled : ∀ json, ¬Padded json text.toList) :
    decode reason value? text = .error (.serialization (reason text)) := by
  have unread : parse? text.toList = none :=
    Option.eq_none_iff_forall_ne_some.mpr fun json read =>
      unspelled json (parse?_eq_some_iff.mp read)
  rw [decode, unread, Option.bind_none]

end Json
end ReactiveGraph
