import RevSDK.Foundation.UriReference

/-!
# Resolution of references

A reference is resolved against an absolute base as the generic syntax says: a
component that it has hides all that follow in the base, a relative path is
merged with that of the base, and dot segments are removed.
-/

namespace RevSDK.Foundation

def segments : List Char → List (List Char)
  | [] => []
  | c :: rest =>
      match segments rest with
      | [] => [[c]]
      | segment :: others =>
          if segment.head? = some '/' then [c] :: segment :: others
          else (c :: segment) :: others

def dropLeadingDots : List Char → List Char
  | '.' :: '/' :: rest => dropLeadingDots rest
  | '.' :: '.' :: '/' :: rest => dropLeadingDots rest
  | ['.'] => []
  | ['.', '.'] => []
  | path => path

/-- `output` holds the segments in reverse order; the last dot segment leaves
its slash. -/
def removeDots (output : List (List Char)) :
    List (List Char) → List (List Char)
  | [] => output
  | segment :: rest =>
      let closing := if rest.isEmpty then [['/']] else []
      if segment = ['/', '.'] then removeDots (closing ++ output) rest
      else if segment = ['/', '.', '.'] then
        removeDots (closing ++ output.tail) rest
      else removeDots (segment :: output) rest

def removeDotSegments (path : List Char) : List Char :=
  (removeDots [] (segments (dropLeadingDots path))).reverse.flatten

def directory (path : List Char) : List Char :=
  ((path.reverse.dropWhile (· != '/'))).reverse

namespace Reference

def merge (base : Reference) (path : List Char) : List Char :=
  if base.authority.isSome && base.path.isEmpty then '/' :: path
  else directory base.path ++ path

def resolve (base r : Reference) : Reference :=
  if r.scheme.isSome then
    { r with path := removeDotSegments r.path }
  else if r.authority.isSome then
    { r with scheme := base.scheme, path := removeDotSegments r.path }
  else if r.path.isEmpty then
    { base with query := r.query.or base.query, fragment := r.fragment }
  else
    { base with
      path := removeDotSegments
        (if r.path.head? = some '/' then r.path else base.merge r.path)
      query := r.query
      fragment := r.fragment }

variable (base : Reference) {r : Reference}

theorem resolve_of_scheme (hscheme : r.scheme.isSome = true) :
    base.resolve r = { r with path := removeDotSegments r.path } :=
  if_pos hscheme

theorem resolve_of_authority (hauthority : r.authority.isSome = true) :
    base.resolve r =
      { r with
        scheme := r.scheme.or base.scheme
        path := removeDotSegments r.path } := by
  unfold resolve
  cases hscheme : r.scheme <;> simp [hauthority]

theorem authority_resolve (hscheme : r.scheme = none)
    (hauthority : r.authority = none) :
    (base.resolve r).authority = base.authority := by
  unfold resolve
  simp only [hscheme, hauthority, Option.isSome_none, Bool.false_eq_true,
    if_false]
  split <;> rfl

end Reference

/-! ## Examples of the generic syntax -/

section Examples

example : removeDotSegments "/a/b/c/./../../g".toList = "/a/g".toList := by
  decide

example : removeDotSegments "mid/content=5/../6".toList = "mid/6".toList := by
  decide

end Examples

end RevSDK.Foundation
