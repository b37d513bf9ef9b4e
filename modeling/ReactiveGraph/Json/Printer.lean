import ReactiveGraph.Json.Basic

namespace ReactiveGraph
namespace Json

/-!
# Writing JSON

As the library documents it, a document is written either compactly, without
any blank, or with every item and member on a line of its own, indented by two
spaces per level.  In strings only the quote, the backslash and the control
characters are escaped.
-/

def hexDigits (unit : Nat) : List Char :=
  [unit / 0x1000 % 16, unit / 0x100 % 16, unit / 0x10 % 16, unit % 16].map Nat.digitChar

def writeChar (c : Char) : List Char :=
  if c = '"' then ['\\', '"']
  else if c = '\\' then ['\\', '\\']
  else if c = '\x08' then ['\\', 'b']
  else if c = '\x0c' then ['\\', 'f']
  else if c = '\n' then ['\\', 'n']
  else if c = '\r' then ['\\', 'r']
  else if c = '\t' then ['\\', 't']
  else if c.toNat < 0x20 then '\\' :: 'u' :: hexDigits c.toNat
  else [c]

def writeLetter : Letter → List Char
  | .char c => writeChar c
  | .surrogate unit => '\\' :: 'u' :: hexDigits unit

def writeString (letters : List Letter) : List Char :=
  '"' :: letters.flatMap writeLetter ++ ['"']

def writeBool : Bool → List Char
  | true => ['t', 'r', 'u', 'e']
  | false => ['f', 'a', 'l', 's', 'e']

mutual

def compact : Json → List Char
  | null => ['n', 'u', 'l', 'l']
  | bool value => writeBool value
  | number literal => literal
  | string letters => writeString letters
  | array items => '[' :: compactItems items ++ [']']
  | object members => '{' :: compactMembers members ++ ['}']

def compactItems : List Json → List Char
  | [] => []
  | [item] => compact item
  | item :: rest => compact item ++ ',' :: compactItems rest

def compactMembers : List (List Letter × Json) → List Char
  | [] => []
  | [(key, value)] => writeString key ++ ':' :: compact value
  | (key, value) :: rest => writeString key ++ ':' :: compact value ++ ',' :: compactMembers rest

end

def newLine (level : Nat) : List Char :=
  '\n' :: List.replicate (2 * level) ' '

mutual

def pretty (level : Nat) : Json → List Char
  | null => ['n', 'u', 'l', 'l']
  | bool value => writeBool value
  | number literal => literal
  | string letters => writeString letters
  | array [] => ['[', ']']
  | array (item :: rest) =>
      '[' :: newLine (level + 1) ++ pretty (level + 1) item ++ prettyItems (level + 1) rest ++
        newLine level ++ [']']
  | object [] => ['{', '}']
  | object ((key, value) :: rest) =>
      '{' :: newLine (level + 1) ++ writeString key ++ ':' :: ' ' :: pretty (level + 1) value ++
        prettyMembers (level + 1) rest ++ newLine level ++ ['}']

/-- Further items, each behind a comma and on a new line. -/
def prettyItems (level : Nat) : List Json → List Char
  | [] => []
  | item :: rest => ',' :: newLine level ++ pretty level item ++ prettyItems level rest

/-- Further members, each behind a comma and on a new line. -/
def prettyMembers (level : Nat) : List (List Letter × Json) → List Char
  | [] => []
  | (key, value) :: rest =>
      ',' :: newLine level ++ writeString key ++ ':' :: ' ' :: pretty level value ++
        prettyMembers level rest

end

end Json
end ReactiveGraph
