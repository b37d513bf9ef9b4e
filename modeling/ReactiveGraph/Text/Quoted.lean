import ReactiveGraph.Text.GraphemeExtend
import ReactiveGraph.Text.Printable

namespace ReactiveGraph
namespace Text

/-!
# Quoted text

In diagnostic views a text stands between double quotes and shows every
character: the quote, the backslash and the usual control characters have a
two-character escape, and whatever could not be read on its own is given by
its code point.
-/

/-- The code point in lower-case hexadecimal, between braces. -/
def codePointEscape (c : Char) : List Char :=
  ['\\', 'u', '{'] ++ Nat.toDigits 16 c.toNat ++ ['}']

def escapeChar (c : Char) : List Char :=
  if c = '\x00' then ['\\', '0']
  else if c = '\t' then ['\\', 't']
  else if c = '\r' then ['\\', 'r']
  else if c = '\n' then ['\\', 'n']
  else if c = '\\' || c = '"' then ['\\', c]
  else if extendsGrapheme c || !isPrintable c then codePointEscape c
  else [c]

/-- The text between double quotes, with escapes where they are needed. -/
def quoted (text : String) : String :=
  String.ofList ('"' :: text.toList.flatMap escapeChar ++ ['"'])

end Text
end ReactiveGraph
