import Mathlib.Data.List.Infix
import ReactiveGraph.TypeName

namespace ReactiveGraph

/-!
# What short names keep

A text falls into paths with punctuation between them.  Every path is shortened
on its own, to what stands behind its last pair of colons, and the punctuation
stays.  So the short name of a compound type is made of the short names of its
parts, whatever their names are, and to shorten a name once more makes no
difference.
-/

namespace TypeName

/-- What a path is shortened to: what stands behind its last pair of colons, or
all of it if it has none. -/
inductive IsLastSegment (path segment : List Char) : Prop where
  | whole (unpaired : ¬[':', ':'] <:+: path) (same : segment = path)
  | behind (front : List Char) (split : path = front ++ ':' :: ':' :: segment)
      (last : ∀ earlier rest, path = earlier ++ ':' :: ':' :: rest →
        earlier.length ≤ front.length)

/-- Read from right to left, a path is cut at the first pair of colons. -/
theorem finalSegment_cases (path : List Char) :
    (¬[':', ':'] <:+: path ∧ finalSegment path = path) ∨
      ∃ behind, path = finalSegment path ++ ':' :: ':' :: behind ∧
        ∀ front back, path = front ++ ':' :: ':' :: back →
          (finalSegment path).length ≤ front.length := by
  fun_induction finalSegment path with
  | case1 rest => exact Or.inr ⟨rest, rfl, fun _ _ _ => Nat.zero_le _⟩
  | case2 c rest other ih =>
      rcases ih with ⟨unpaired, same⟩ | ⟨behind, split, first⟩
      · refine Or.inl ⟨?_, by rw [same]⟩
        intro pair
        rcases List.infix_cons_iff.mp pair with ⟨back, begins⟩ | later
        · cases begins
          exact other back rfl rfl
        · exact unpaired later
      · refine Or.inr ⟨behind, congrArg (c :: ·) split, ?_⟩
        intro front back cut
        cases front with
        | nil =>
            cases cut
            exact (other back rfl rfl).elim
        | cons head front =>
            cases cut
            exact Nat.succ_le_succ (first front back rfl)
  | case3 => exact Or.inl ⟨by simp, rfl⟩

theorem not_pair_finalSegment (path : List Char) : ¬[':', ':'] <:+: finalSegment path := by
  rcases finalSegment_cases path with ⟨unpaired, same⟩ | ⟨behind, split, first⟩
  · rwa [same]
  · rintro ⟨front, back, inside⟩
    -- a pair before the first one
    have cut : path = front ++ ':' :: ':' :: (back ++ ':' :: ':' :: behind) := by
      rw [split, ← inside]
      simp
    have short := first front _ cut
    have long := congrArg List.length inside
    simp only [List.length_append, List.length_cons, List.length_nil] at long
    omega

theorem finalSegment_of_not_pair {path : List Char} (unpaired : ¬[':', ':'] <:+: path) :
    finalSegment path = path := by
  rcases finalSegment_cases path with ⟨_, same⟩ | ⟨behind, split, _⟩
  · exact same
  · refine absurd ⟨finalSegment path, behind, ?_⟩ unpaired
    rw [List.append_assoc]
    exact split.symm

theorem isPrefix_finalSegment (path : List Char) : finalSegment path <+: path := by
  rcases finalSegment_cases path with ⟨_, same⟩ | ⟨behind, split, _⟩
  · rw [same]
  · exact ⟨':' :: ':' :: behind, split.symm⟩

theorem pair_reverse (text : List Char) : [':', ':'] <:+: text.reverse ↔ [':', ':'] <:+: text := by
  have turned : [':', ':'].reverse = [':', ':'] := rfl
  rw [← turned, List.reverse_infix, turned]

def lastSegment (path : List Char) : List Char :=
  (finalSegment path.reverse).reverse

theorem isLastSegment_lastSegment (path : List Char) :
    IsLastSegment path (lastSegment path) := by
  rcases finalSegment_cases path.reverse with ⟨unpaired, same⟩ | ⟨behind, split, first⟩
  · rw [pair_reverse] at unpaired
    refine .whole unpaired ?_
    rw [lastSegment, same, List.reverse_reverse]
  · have cut : path = behind.reverse ++ ':' :: ':' :: lastSegment path := by
      have mirrored := congrArg List.reverse split
      simpa [lastSegment] using mirrored
    refine .behind behind.reverse cut ?_
    intro earlier rest other
    have mirrored : path.reverse = rest.reverse ++ ':' :: ':' :: earlier.reverse := by
      rw [other]
      simp
    have short := first rest.reverse earlier.reverse mirrored
    have sizes := congrArg List.length (cut.symm.trans other)
    simp only [lastSegment, List.length_append, List.length_cons, List.length_reverse]
      at sizes short ⊢
    omega

theorem not_pair_lastSegment (path : List Char) : ¬[':', ':'] <:+: lastSegment path := by
  rw [lastSegment, pair_reverse]
  exact not_pair_finalSegment path.reverse

theorem lastSegment_lastSegment (path : List Char) :
    lastSegment (lastSegment path) = lastSegment path := by
  rw [lastSegment, lastSegment, List.reverse_reverse,
    finalSegment_of_not_pair (not_pair_finalSegment path.reverse)]

theorem lastSegment_suffix (path : List Char) : lastSegment path <:+ path := by
  have kept := List.reverse_suffix.mpr (isPrefix_finalSegment path.reverse)
  rwa [List.reverse_reverse] at kept

def Plain (text : List Char) : Prop :=
  ∀ c ∈ text, isSeparator c = false

theorem Plain.shorten {path : List Char} (plain : Plain path) :
    shorten [] path = lastSegment path := by
  have all : ∀ rest seen, Plain rest →
      TypeName.shorten seen rest = (finalSegment (rest.reverse ++ seen)).reverse := by
    intro rest
    induction rest with
    | nil => exact fun _ _ => rfl
    | cons c rest ih =>
        intro seen plain
        rw [TypeName.shorten, plain c List.mem_cons_self, if_neg Bool.false_ne_true,
          ih _ fun other member => plain other (List.mem_cons_of_mem c member)]
        simp
  rw [all path [] plain, List.append_nil, lastSegment]

theorem Plain.lastSegment {path : List Char} (plain : Plain path) : Plain (lastSegment path) :=
  fun c member => plain c ((lastSegment_suffix path).subset member)

/-- What holds of every path, and of a path and a separator in front of what it
holds of, holds of every text. -/
theorem path_by_path {P : List Char → Prop} (single : ∀ path, Plain path → P path)
    (several : ∀ path c text, Plain path → isSeparator c = true → P text →
      P (path ++ c :: text)) (text : List Char) : P text := by
  have first : ∀ path, Plain path → P (path ++ text) := by
    induction text with
    | nil =>
        intro path plain
        rw [List.append_nil]
        exact single path plain
    | cons c text ih =>
        intro path plain
        cases closes : isSeparator c with
        | true => exact several path c text plain closes (ih [] fun _ none => nomatch none)
        | false =>
            rw [List.append_cons]
            apply ih
            intro other member
            rcases List.mem_append.mp member with inside | last
            · exact plain other inside
            · rwa [List.mem_singleton.mp last]
  exact first [] fun _ none => nomatch none

/-- A pair of colons does not reach across a separator. -/
theorem pair_append_separator {front back : List Char} {c : Char}
    (separates : isSeparator c = true) (pair : [':', ':'] <:+: front ++ c :: back) :
    [':', ':'] <:+: front ∨ [':', ':'] <:+: back := by
  have other : c ≠ ':' := by
    rintro rfl
    exact absurd separates (by decide)
  induction front with
  | nil =>
      rcases List.infix_cons_iff.mp pair with ⟨_, begins⟩ | later
      · cases begins
        exact absurd rfl other
      · exact Or.inr later
  | cons head front ih =>
      rcases List.infix_cons_iff.mp pair with ⟨rest, begins⟩ | later
      · cases front with
        | nil =>
            cases begins
            exact absurd rfl other
        | cons next front =>
            cases begins
            exact Or.inl ⟨[], front, rfl⟩
      · rcases ih later with inside | behind
        · exact Or.inl (List.infix_cons inside)
        · exact Or.inr behind

/-! ## Whole texts -/

theorem not_pair_shorten (text : List Char) : ¬[':', ':'] <:+: shorten [] text := by
  induction text using path_by_path with
  | single path plain =>
      rw [plain.shorten]
      exact not_pair_lastSegment path
  | several path c text plain separates ih =>
      rw [shorten_append_separator _ _ _ _ separates, plain.shorten]
      intro pair
      rcases pair_append_separator separates pair with inside | behind
      · exact not_pair_lastSegment path inside
      · exact ih behind

theorem separators_shorten (text : List Char) :
    (shorten [] text).filter isSeparator = text.filter isSeparator := by
  have none : ∀ {path : List Char}, Plain path → path.filter isSeparator = [] := by
    intro path plain
    apply List.filter_eq_nil_iff.mpr
    intro c member
    rw [plain c member]
    exact Bool.false_ne_true
  induction text using path_by_path with
  | single path plain => rw [plain.shorten, none plain, none plain.lastSegment]
  | several path c text plain separates ih =>
      rw [shorten_append_separator _ _ _ _ separates, plain.shorten, List.filter_append,
        List.filter_append, none plain, none plain.lastSegment, List.filter_cons_of_pos separates,
        List.filter_cons_of_pos separates, ih]

theorem shorten_shorten (text : List Char) : shorten [] (shorten [] text) = shorten [] text := by
  induction text using path_by_path with
  | single path plain =>
      rw [plain.shorten, plain.lastSegment.shorten, lastSegment_lastSegment]
  | several path c text plain separates ih =>
      rw [shorten_append_separator _ _ _ _ separates, shorten_append_separator _ _ _ _ separates,
        plain.shorten, plain.lastSegment.shorten, lastSegment_lastSegment, ih]

theorem toList_shortName (name : String) :
    (shortName name).toList = shorten [] name.toList := by
  rw [shortName, String.toList_ofList]

theorem shortName_append (front back : String) {c : Char} (separates : isSeparator c = true) :
    shortName (front ++ String.singleton c ++ back) =
      shortName front ++ String.singleton c ++ shortName back := by
  apply String.toList_inj.mp
  simp only [toList_shortName, String.toList_append, String.toList_singleton, List.append_assoc,
    List.singleton_append]
  exact shorten_append_separator [] _ _ c separates

/-- The characters that may stand between paths. -/
def punctuation : List Char :=
  ['<', '>', ',', ' ', '(', ')', '[', ']', ';', '&']

/-- What can be relied on in a way of shortening names.  The parts of a
compound name are shortened on their own, and the punctuation between them
stays.  A name without punctuation is shortened to its last segment, so that
no modules are left, and the lagged form of a type is named after the type. -/
structure Compositional (short : String → String) : Prop where
  compound : ∀ front back, ∀ c ∈ punctuation,
    short (front ++ String.singleton c ++ back) =
      short front ++ String.singleton c ++ short back
  path : ∀ name, (∀ c ∈ name.toList, c ∉ punctuation) →
    IsLastSegment name.toList (short name).toList
  unpaired : ∀ name, ¬[':', ':'] <:+: (short name).toList
  punctuated : ∀ name, (short name).toList.filter (punctuation.contains ·) =
    name.toList.filter (punctuation.contains ·)
  idempotent : ∀ name, short (short name) = short name
  lagged : ∀ name, short ("detector_graph_core::lag::Lagged<" ++ name ++ ">") =
    "Lagged<" ++ short name ++ ">"

theorem short_names_compositional : Compositional shortName := by
  constructor
  case compound =>
    intro front back c member
    exact shortName_append front back (List.contains_iff_mem.mpr member)
  case path =>
    intro name bare
    have plain : Plain name.toList := by
      intro c member
      apply Bool.eq_false_iff.mpr
      exact fun separates => bare c member (List.contains_iff_mem.mp separates)
    rw [toList_shortName, plain.shorten]
    exact isLastSegment_lastSegment name.toList
  case unpaired =>
    intro name
    rw [toList_shortName]
    exact not_pair_shorten name.toList
  case punctuated =>
    intro name
    rw [toList_shortName]
    exact separators_shorten name.toList
  case idempotent =>
    intro name
    apply String.toList_inj.mp
    rw [toList_shortName, toList_shortName]
    exact shorten_shorten name.toList
  case lagged =>
    intro name
    have opening : "detector_graph_core::lag::Lagged<" =
        "detector_graph_core::lag::Lagged" ++ String.singleton '<' := rfl
    have closing : name ++ ">" = name ++ String.singleton '>' ++ "" := by
      rw [String.append_empty]
      rfl
    have lag : shortName "detector_graph_core::lag::Lagged" = "Lagged" := by decide
    have empty : shortName "" = "" := rfl
    rw [String.append_assoc, opening, closing, shortName_append _ _ rfl, shortName_append _ _ rfl,
      lag, empty, String.append_empty]
    rfl

example : shortName "core::option::Option<(a::b::C, [:::D; 2])>" = "Option<(C, [D; 2])>" := by
  decide

end TypeName
end ReactiveGraph
