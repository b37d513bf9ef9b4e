import ReactiveGraph.Text.Decimal

namespace ReactiveGraph

/-!
# JSON values

Documents are read and written by a JSON library outside the program.  These
modules stand for it and follow the format that it documents.

Numbers are kept as they are spelled and strings letter by letter, because
what a document may hold is more than what a reader of it can use: numbers
beyond any range, and strings that are no text.
-/

/-- One letter of a JSON string: a character, or one half of a surrogate pair
in the order of the document. -/
inductive Json.Letter where
  | char (c : Char)
  | surrogate (unit : Nat)
  deriving DecidableEq

inductive Json where
  | null
  | bool (value : Bool)
  | number (literal : List Char)
  | string (letters : List Json.Letter)
  | array (items : List Json)
  | object (members : List (List Json.Letter × Json))

namespace Json

def isLead (unit : Nat) : Bool :=
  0xD800 ≤ unit && unit < 0xDC00

def isTrail (unit : Nat) : Bool :=
  0xDC00 ≤ unit && unit < 0xE000

def ofPair (lead trail : Nat) : Char :=
  Char.ofNat (0x10000 + (lead - 0xD800) * 0x400 + (trail - 0xDC00))

/-- The text of a string, unless it has half a surrogate pair without the
other. -/
def textOf? : List Letter → Option (List Char)
  | [] => some []
  | .char c :: rest => (textOf? rest).map (c :: ·)
  | .surrogate lead :: .surrogate trail :: rest =>
      if isLead lead && isTrail trail then (textOf? rest).map (ofPair lead trail :: ·) else none
  | .surrogate _ :: _ => none

def ofText (text : String) : Json :=
  string (text.toList.map .char)

def ofNat (n : Nat) : Json :=
  number (Text.decimalDigits n)

def record (members : List (String × Json)) : Json :=
  object (members.map fun member => (member.1.toList.map .char, member.2))

def text? : Json → Option String
  | string letters => (textOf? letters).map String.ofList
  | _ => none

/-- The natural number below 2^64 that a JSON number spells without sign,
fraction or exponent. -/
def nat? : Json → Option Nat
  | number literal =>
      if literal.all Char.isDigit then
        let n := Nat.ofDigitChars 10 literal 0
        if n < UInt64.size then some n else none
      else none
  | _ => none

def bool? : Json → Option Bool
  | bool value => some value
  | _ => none

def list? {β : Type} (item? : Json → Option β) : Json → Option (List β)
  | array items => items.mapM item?
  | _ => none

/-- The fields of a record with the given field names, in the order of these
names.  A record is an object, in which other members are ignored and none
of the named ones may occur twice, or an array of the first fields in
order. -/
def fields? (names : List String) : Json → Option (List (Option Json))
  | object members => do
      let members ← members.mapM fun member =>
        (textOf? member.1).map fun key => (String.ofList key, member.2)
      names.mapM fun name =>
        match members.filter fun member => member.1 = name with
        | [] => some none
        | [member] => some (some member.2)
        | _ => none
  | array items =>
      if items.length ≤ names.length then
        some ((List.range names.length).map fun index => items[index]?)
      else none
  | _ => none

end Json
end ReactiveGraph
