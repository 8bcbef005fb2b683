import FeedDesk.Text.Basic

namespace FeedDesk
namespace Path

/-!
Paths of files. Components stand between slashes; closing slashes and components that are a single
point, apart from the first one, count for nothing.
-/

/-- A reversed path without closing slashes and points. -/
def trimReversed : Text → Text
  | '/' :: next :: rest => trimReversed (next :: rest)
  | '.' :: '/' :: rest => trimReversed ('/' :: rest)
  | path => path

/-- The path without closing slashes and points. -/
def trimmed (path : Text) : Text :=
  (trimReversed path.reverse).reverse

/-- The path of the directory that holds a path; a root and the empty path have none. -/
def parent? (path : Text) : Option Text :=
  let path := trimmed path
  if path = [] ∨ path = "/" then none
  else some (trimmed (path.reverse.dropWhile (· != '/')).reverse)

/-- The last component. -/
def fileName (path : Text) : Text :=
  ((trimmed path).reverse.takeWhile (· != '/')).reverse

/-- What follows the last point of the last component; a point at its beginning does not count. -/
def fileExtension? (path : Text) : Option Text :=
  let reversed := (fileName path).reverse
  let ending := reversed.takeWhile (· != '.')
  match reversed.dropWhile (· != '.') with
  | _ :: _ :: _ => some ending.reverse
  | _ => none

def isAbsolute (path : Text) : Bool :=
  path.head? == some '/'

/-- The names on the way from the root to a path, from the names on the way to the directory in
which it is used. -/
def names (current : List Text) (path : Text) : List Text :=
  (path.splitBy (· == '/')).foldl (fun names component =>
    if component = [] ∨ component = "." then names
    else if component = ".." then names.dropLast
    else names ++ [component])
    (if isAbsolute path then [] else current)

end Path
end FeedDesk
