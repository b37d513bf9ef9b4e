namespace ReactiveGraph
namespace TypeName

/-!
# Short names of types

A type is written as a path such as `app::sales::Receipt`, possibly applied
to other types: `Option<(app::Coin, app::Tray)>`.  Its short name keeps the
last segment of every path and all of the punctuation between the paths, so
that the generic structure of the type stays visible.
-/

def isSeparator (c : Char) : Bool :=
  ['<', '>', ',', ' ', '(', ')', '[', ']', ';', '&'].contains c

/-- The last segment of a path, both read from right to left: everything
before the first pair of colons met on the way. -/
def finalSegment : List Char → List Char
  | ':' :: ':' :: _ => []
  | c :: rest => c :: finalSegment rest
  | [] => []

/-- Shorten a text whose current path, read so far, is `seen` backwards.
A separator closes the path before it and stands for itself. -/
def shorten (seen : List Char) : List Char → List Char
  | [] => (finalSegment seen).reverse
  | c :: rest =>
      if isSeparator c then (finalSegment seen).reverse ++ c :: shorten [] rest
      else shorten (c :: seen) rest

/-- A separator splits the work in two: what stands before it and what stands
behind it are shortened on their own. -/
theorem shorten_append_separator (seen front back : List Char) (c : Char)
    (separates : isSeparator c = true) :
    shorten seen (front ++ c :: back) = shorten seen front ++ c :: shorten [] back := by
  induction front generalizing seen with
  | nil => simp [shorten, separates]
  | cons head tail ih =>
      by_cases closes : isSeparator head = true
      · simp [shorten, closes, ih]
      · simp [shorten, closes, ih]

end TypeName

def shortName (fullName : String) : String :=
  String.ofList (TypeName.shorten [] fullName.toList)

end ReactiveGraph
