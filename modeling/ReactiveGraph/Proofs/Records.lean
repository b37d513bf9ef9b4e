import Mathlib.Data.List.Nodup
import ReactiveGraph.Proofs.Spelling

namespace ReactiveGraph

/-!
# Reading records

A record is read field by field: each is looked up among the members of an
object.  What else there is among the members makes no difference, as long as
every key is a text, but no field may be found twice.  Texts, numbers and lists
are read back as what they were written for.
-/

namespace Json

/-- Reading item by item succeeds where every item can be read. -/
theorem mapM_of_some {κ β : Type} {item? : κ → Option β} {item : κ → β} {items : List κ}
    (each : ∀ source ∈ items, item? source = some (item source)) :
    items.mapM item? = some (items.map item) := by
  induction items with
  | nil => rfl
  | cons source rest ih =>
      have later := ih fun other member => each other (List.mem_cons_of_mem source member)
      rw [List.mapM_cons, each source List.mem_cons_self, later]
      rfl

theorem mapM_of_none {κ β : Type} {item? : κ → Option β} {items : List κ} {source : κ}
    (member : source ∈ items) (fails : item? source = none) : items.mapM item? = none := by
  induction items with
  | nil => cases member
  | cons first rest ih =>
      rw [List.mapM_cons]
      rcases List.mem_cons.mp member with rfl | later
      · rw [fails]
        rfl
      · rw [ih later]
        cases item? first <;> rfl

theorem list?_array {β : Type} {item? : Json → Option β} {write : β → Json} {items : List β}
    (written : ∀ item ∈ items, item? (write item) = some item) :
    (array (items.map write)).list? item? = some items := by
  have each : ∀ item ∈ items, (item? ∘ write) item = some (id item) := written
  rw [list?, List.mapM_map, mapM_of_some each, List.map_id]

theorem textOf?_of_hasText {letters : List Letter} {text : List Char}
    (spelled : HasText letters text) : textOf? letters = some text := by
  induction spelled with
  | nil => rfl
  | char c _ ih => rw [textOf?, ih, Option.map_some]
  | @pair c large letters text _ ih =>
      have bounded : c.toNat < 0x110000 := by
        rcases c.valid with low | ⟨_, high⟩
        · exact Nat.lt_trans low (by decide)
        · exact high
      have halves : (isLead (0xD800 + (c.toNat - 0x10000) / 0x400) &&
          isTrail (0xDC00 + (c.toNat - 0x10000) % 0x400)) = true := by
        simp only [isLead, isTrail, Bool.and_eq_true, decide_eq_true_eq]
        omega
      have whole : 0x10000 + (0xD800 + (c.toNat - 0x10000) / 0x400 - 0xD800) * 0x400 +
          (0xDC00 + (c.toNat - 0x10000) % 0x400 - 0xDC00) = c.toNat := by
        omega
      rw [textOf?, if_pos halves, ih, ofPair, whole, Char.ofNat_toNat, Option.map_some]

theorem text?_string {letters : List Letter} {text : String}
    (spelled : HasText letters text.toList) : (string letters).text? = some text := by
  rw [text?, textOf?_of_hasText spelled, Option.map_some, String.ofList_toList]

theorem text?_ofText (text : String) : (ofText text).text? = some text :=
  text?_string (hasText_chars text.toList)

/-- A number is read back as long as it is a word of 64 bits. -/
theorem nat?_ofNat {n : Nat} (word : n < UInt64.size) : (ofNat n).nat? = some n := by
  have digits : (Text.decimalDigits n).all Char.isDigit = true :=
    List.all_eq_true.mpr fun _ member =>
      Nat.isDigit_of_mem_toDigits (by decide) (by decide) member
  have value : Nat.ofDigitChars 10 (Text.decimalDigits n) 0 = n := Nat.ofDigitChars_ten_toDigits
  rw [ofNat, nat?, if_pos digits, value, if_pos word]

/-- The members with their keys as texts, if all of them have one. -/
def named? (members : List (List Letter × Json)) : Option (List (String × Json)) :=
  members.mapM fun member => (textOf? member.1).map fun key => (String.ofList key, member.2)

theorem named?_cons (key : List Letter) (value : Json) (members : List (List Letter × Json)) :
    named? ((key, value) :: members) =
      (textOf? key).bind fun text => (named? members).map fun named =>
        (String.ofList text, value) :: named := by
  rw [named?, List.mapM_cons, ← named?]
  cases textOf? key with
  | none => rfl
  | some text => cases named? members <;> rfl

theorem named?_cons_of_hasText {key : List Letter} {name : String}
    (spelled : HasText key name.toList) (value : Json) (members : List (List Letter × Json)) :
    named? ((key, value) :: members) =
      (named? members).map fun named => (name, value) :: named := by
  rw [named?_cons, textOf?_of_hasText spelled, Option.bind_some, String.ofList_toList]

theorem of_named?_cons {key : List Letter} {name : String} (spelled : HasText key name.toList)
    {value : Json} {members : List (List Letter × Json)} {named : List (String × Json)}
    (keyed : named? ((key, value) :: members) = some named) :
    ∃ others, named? members = some others ∧ named = (name, value) :: others := by
  rw [named?_cons_of_hasText spelled, Option.map_eq_some_iff] at keyed
  rcases keyed with ⟨others, keyed, same⟩
  exact ⟨others, keyed, same.symm⟩

theorem named?_record (members : List (String × Json)) :
    named? (members.map lettered) = some members := by
  induction members with
  | nil => rfl
  | cons member rest ih =>
      rw [List.map_cons, lettered, named?_cons_of_hasText (hasText_chars _), ih, Option.map_some]

theorem count_named {members : List (List Letter × Json)} {named : List (String × Json)}
    (keyed : named? members = some named) (name : String) :
    (named.map Prod.fst).count name =
      members.countP fun member => textOf? member.1 = some name.toList := by
  induction members generalizing named with
  | nil =>
      cases keyed
      rfl
  | cons member rest ih =>
      rw [named?_cons, Option.bind_eq_some_iff] at keyed
      rcases keyed with ⟨text, spelled, keyed⟩
      rcases Option.map_eq_some_iff.mp keyed with ⟨others, later, rfl⟩
      have same : String.ofList text = name ↔ text = name.toList := by
        rw [← String.toList_inj, String.toList_ofList]
      rw [List.map_cons, List.count_cons, List.countP_cons, ih later, spelled]
      simp [same]

theorem lookup_eq_filter (named : List (String × Json)) (name : String) :
    named.lookup name = ((named.filter fun member => member.1 = name).head?).map Prod.snd := by
  induction named with
  | nil => rfl
  | cons member rest ih =>
      rw [List.lookup_cons, List.filter_cons]
      by_cases same : member.1 = name
      · rw [if_pos (decide_eq_true same), beq_iff_eq.mpr same.symm]
        rfl
      · have other : ¬decide (member.1 = name) = true := by simpa using same
        rw [if_neg other, beq_eq_false_iff_ne.mpr (Ne.symm same)]
        exact ih

theorem count_eq_filter (named : List (String × Json)) (name : String) :
    (named.map Prod.fst).count name = (named.filter fun member => member.1 = name).length := by
  rw [List.count_eq_countP, List.countP_map, List.countP_eq_length_filter]
  rfl

/-- Fields that occur at most once are looked up. -/
theorem fields?_object {names : List String} {members : List (List Letter × Json)}
    {named : List (String × Json)} (keyed : named? members = some named)
    (once : ∀ name ∈ names, (named.map Prod.fst).count name ≤ 1) :
    (object members).fields? names = some (names.map fun name => named.lookup name) := by
  rw [named?] at keyed
  rw [fields?, keyed]
  refine mapM_of_some fun name member => ?_
  have single := once name member
  rw [count_eq_filter] at single
  rw [lookup_eq_filter]
  split
  next none =>
    rw [none]
    rfl
  next member one =>
    rw [one]
    rfl
  next none several =>
    -- more than one member
    rcases Nat.le_one_iff_eq_zero_or_eq_one.mp single with zero | one
    · exact absurd (List.length_eq_zero_iff.mp zero) none
    · rcases List.length_eq_one_iff.mp one with ⟨member, alone⟩
      exact absurd alone (several member)

/-- A field that occurs twice spoils the record. -/
theorem fields?_repeated {names : List String} {name : String} (field : name ∈ names)
    {members : List (List Letter × Json)}
    (twice : 1 < members.countP fun member => textOf? member.1 = some name.toList) :
    (object members).fields? names = none := by
  cases keyed : named? members with
  | none =>
      rw [named?] at keyed
      rw [fields?, keyed]
      rfl
  | some named =>
      rw [← count_named keyed, count_eq_filter] at twice
      rw [named?] at keyed
      rw [fields?, keyed]
      apply mapM_of_none field
      split
      next none => simp [none] at twice
      next one => simp [one] at twice
      next => rfl

theorem lookup_of_mem {members : List (String × Json)} (distinct : (members.map Prod.fst).Nodup)
    {member : String × Json} (present : member ∈ members) :
    members.lookup member.1 = some member.2 := by
  induction members with
  | nil => cases present
  | cons first rest ih =>
      rcases List.nodup_cons.mp distinct with ⟨fresh, others⟩
      rcases List.mem_cons.mp present with rfl | later
      · exact List.lookup_cons_self
      · have other : member.1 ≠ first.1 := fun same =>
          fresh (same ▸ List.mem_map_of_mem later)
        rw [List.lookup_cons, beq_eq_false_iff_ne.mpr other]
        exact ih others later

/-- All fields of a record are found if their names differ. -/
theorem fields?_record {names : List String} (distinct : names.Nodup)
    {members : List (String × Json)} (named : members.map Prod.fst = names) :
    (record members).fields? names = some (members.map fun member => some member.2) := by
  subst named
  have once : ∀ name ∈ members.map Prod.fst, (members.map Prod.fst).count name ≤ 1 :=
    fun name _ => List.nodup_iff_count_le_one.mp distinct name
  rw [record_eq, fields?_object (named?_record members) once, List.map_map, Option.some.injEq]
  exact List.map_congr_left fun member present => lookup_of_mem distinct present

end Json
end ReactiveGraph
