import ReactiveGraph.Error
import ReactiveGraph.Json.Basic

namespace ReactiveGraph
namespace Json

/-!
# Reading JSON

The strict grammar that the library documents: four blanks, no comments, no
trailing commas, no leading zeros, and nothing behind the value but blanks.
Each reader takes the text and returns what it read together with the rest.
-/

def isBlank (c : Char) : Bool :=
  c = ' ' || c = '\t' || c = '\n' || c = '\r'

def skipBlanks (text : List Char) : List Char :=
  text.dropWhile isBlank

def hexValue? (c : Char) : Option Nat :=
  if c.isDigit then some (c.toNat - '0'.toNat)
  else if 'a' ≤ c && c ≤ 'f' then some (c.toNat - 'a'.toNat + 10)
  else if 'A' ≤ c && c ≤ 'F' then some (c.toNat - 'A'.toNat + 10)
  else none

/-- The letter with the code unit of four hexadecimal digits. -/
def unitLetter? (a b c d : Char) : Option Letter := do
  let unit := (((← hexValue? a) * 16 + (← hexValue? b)) * 16 + (← hexValue? c)) * 16 +
    (← hexValue? d)
  return if isLead unit || isTrail unit then .surrogate unit else .char (Char.ofNat unit)

/-- The character that a backslash followed by the given one stands for. -/
def escaped? (c : Char) : Option Char :=
  if c = '"' || c = '\\' || c = '/' then some c
  else if c = 'b' then some '\x08'
  else if c = 'f' then some '\x0c'
  else if c = 'n' then some '\n'
  else if c = 'r' then some '\r'
  else if c = 't' then some '\t'
  else none

def readLetters : List Char → Option (List Letter × List Char)
  | [] => none
  | '"' :: rest => some ([], rest)
  | '\\' :: 'u' :: a :: b :: c :: d :: rest => do
      let letter ← unitLetter? a b c d
      let (letters, rest) ← readLetters rest
      return (letter :: letters, rest)
  | '\\' :: c :: rest => do
      let c ← escaped? c
      let (letters, rest) ← readLetters rest
      return (.char c :: letters, rest)
  | c :: rest =>
      if c = '\\' || c.toNat < 0x20 then none
      else do
        let (letters, rest) ← readLetters rest
        return (.char c :: letters, rest)

def readDigits (text : List Char) : Option (List Char × List Char) :=
  let digits := text.takeWhile Char.isDigit
  if digits.isEmpty then none else some (digits, text.dropWhile Char.isDigit)

/-- The digits before the point: a zero alone, or any that start with no
zero. -/
def readWhole (text : List Char) : Option (List Char × List Char) := do
  let (digits, rest) ← readDigits text
  if digits.head? = some '0' && digits.length ≠ 1 then none else return (digits, rest)

def readFraction : List Char → Option (List Char × List Char)
  | '.' :: rest => do
      let (digits, rest) ← readDigits rest
      return ('.' :: digits, rest)
  | text => some ([], text)

def readExponentSign : List Char → List Char × List Char
  | '+' :: rest => (['+'], rest)
  | '-' :: rest => (['-'], rest)
  | text => ([], text)

def readExponent : List Char → Option (List Char × List Char)
  | c :: rest =>
      if c = 'e' || c = 'E' then do
        let (sign, rest) := readExponentSign rest
        let (digits, rest) ← readDigits rest
        return (c :: sign ++ digits, rest)
      else some ([], c :: rest)
  | [] => some ([], [])

def readUnsigned (text : List Char) : Option (List Char × List Char) := do
  let (whole, rest) ← readWhole text
  let (fraction, rest) ← readFraction rest
  let (exponent, rest) ← readExponent rest
  return (whole ++ fraction ++ exponent, rest)

def readNumber : List Char → Option (List Char × List Char)
  | '-' :: rest => do
      let (literal, rest) ← readUnsigned rest
      return ('-' :: literal, rest)
  | text => readUnsigned text

def readScalar : List Char → Option (Json × List Char)
  | 'n' :: 'u' :: 'l' :: 'l' :: rest => some (null, rest)
  | 't' :: 'r' :: 'u' :: 'e' :: rest => some (bool true, rest)
  | 'f' :: 'a' :: 'l' :: 's' :: 'e' :: rest => some (bool false, rest)
  | text => (readNumber text).map fun answer => (number answer.1, answer.2)

def readKey (text : List Char) : Option (List Letter × List Char) :=
  match skipBlanks text with
  | '"' :: rest =>
      match readLetters rest with
      | some (letters, rest) =>
          match skipBlanks rest with
          | ':' :: rest => some (letters, rest)
          | _ => none
      | none => none
  | _ => none

mutual

/-- A value, with blanks in front of it.  Readers nest no deeper than
`fuel`. -/
def readValue : (fuel : Nat) → List Char → Option (Json × List Char)
  | 0, _ => none
  | fuel + 1, text =>
      match skipBlanks text with
      | '"' :: rest => (readLetters rest).map fun answer => (string answer.1, answer.2)
      | '[' :: rest =>
          match skipBlanks rest with
          | ']' :: rest => some (array [], rest)
          | _ => (readItems fuel rest).map fun answer => (array answer.1, answer.2)
      | '{' :: rest =>
          match skipBlanks rest with
          | '}' :: rest => some (object [], rest)
          | _ => (readMembers fuel rest).map fun answer => (object answer.1, answer.2)
      | text => readScalar text

def readItems : (fuel : Nat) → List Char → Option (List Json × List Char)
  | 0, _ => none
  | fuel + 1, text =>
      match readValue fuel text with
      | none => none
      | some (item, rest) =>
          match skipBlanks rest with
          | ']' :: rest => some ([item], rest)
          | ',' :: rest => (readItems fuel rest).map fun answer => (item :: answer.1, answer.2)
          | _ => none

def readMembers : (fuel : Nat) → List Char → Option (List (List Letter × Json) × List Char)
  | 0, _ => none
  | fuel + 1, text =>
      match readKey text with
      | none => none
      | some (key, rest) =>
          match readValue fuel rest with
          | none => none
          | some (value, rest) =>
              match skipBlanks rest with
              | '}' :: rest => some ([(key, value)], rest)
              | ',' :: rest =>
                  (readMembers fuel rest).map fun answer => ((key, value) :: answer.1, answer.2)
              | _ => none

end

/-- The value of a whole document.  Every reader that starts another one has
taken a character, or is one of two that start at the same place, so that
twice the length of the text is fuel enough. -/
def parse? (text : List Char) : Option Json :=
  match readValue (2 * text.length + 2) text with
  | some (value, rest) => if skipBlanks rest = [] then some value else none
  | none => none

/-- Read what the value of a document stands for.  `reason` is what the JSON
library says of a text that cannot be read. -/
def decode {β : Type} (reason : String → String) (value? : Json → Option β) (text : String) :
    Except GraphError β :=
  match (parse? text.toList).bind value? with
  | some value => .ok value
  | none => .error (.serialization (reason text))

end Json
end ReactiveGraph
