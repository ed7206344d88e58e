import AccountRelay.Text.Pieces

/-! # Paths

A path is a text whose segments are separated by slashes. Empty segments, and segments of a single
dot behind the first, say nothing. `Path.parent?` is the path without its last segment that says
something; `Path.withExtension` gives the file at the end of a path another extension.
-/

namespace AccountRelay.Path

/-- The segments between the slashes of a path. -/
def segments (path : List Char) : List (List Char) :=
  Text.pieces '/' path

/-- Whether a path ends in a slash, as one of a directory may. -/
def endsInSlash (path : String) : Bool :=
  path.toList.getLast? == some '/'

/-- Whether the last segment with a content is one or two dots. -/
def endsInDots (path : String) : Bool :=
  match (segments path.toList).reverse.dropWhile (·.isEmpty) with
  | last :: _ => last = ['.'] || last = ['.', '.']
  | [] => false

/-- The path that consists of the given segments. -/
def joined (segments : List (List Char)) : List Char :=
  Text.joined '/' segments

/-- Whether a segment behind the first says nothing. -/
def isSilent (segment : List Char) : Bool :=
  segment = [] || segment = ['.']

/-- The segments, last one first, without the silent ones at the end; the first of all always
stays. -/
def trimmedReversed : List (List Char) → List (List Char)
  | [] => []
  | [first] => [first]
  | last :: rest => if isSilent last then trimmedReversed rest else last :: rest

/-- The segments of a path, last one first, without the silent ones at its end. -/
def spoken (path : String) : List (List Char) :=
  trimmedReversed (segments path.toList).reverse

/-- The path with the given segments, last one first; the first segment of an absolute path is
empty. -/
def ofReversed : List (List Char) → String
  | [[]] => "/"
  | reversed => String.ofList (joined reversed.reverse)

/-- The path of the directory that the end of a path lies in; the root and the empty path lie in
none, and a single segment lies in the directory of the empty path. -/
def parent? (path : String) : Option String :=
  match spoken path with
  | [] => none
  | [[]] => none
  | [_] => some ""
  | _ :: rest => some (ofReversed (trimmedReversed rest))

/-- The directory of a path, if it has to be named. -/
def directory? (path : String) : Option String :=
  (parent? path).filter fun parent => !parent.isEmpty

/-- The name without its extension: without the last dot and what follows, unless the dot comes
first. -/
def stem (name : List Char) : List Char :=
  match (name.reverse.dropWhile (· ≠ '.')).tail.reverse with
  | [] => name
  | stem => stem

/-- The name at the end of a path, and the segments in front of it, last one first; the root, the
directory itself and the one above are no names. -/
def lastName? (path : String) : Option (List Char × List (List Char)) :=
  match spoken path with
  | last :: rest => if isSilent last || last = ['.', '.'] then none else some (last, rest)
  | [] => none

/-- The path without as many characters at its end as its extension has. -/
def withoutExtension (path : String) : String :=
  match lastName? path with
  | some (name, _) =>
    String.ofList (path.toList.take (path.length - (name.length - (stem name).length - 1)))
  | none => path

/-- The path with another extension for the file at its end; a path that ends in no name of a file
stays as it is. The old extension goes first, and `..a` ends in no name without it. -/
def withExtension (path extension : String) : String :=
  let bare := withoutExtension path
  match lastName? bare with
  | some (name, rest) =>
    String.ofList (joined ((stem name :: rest).reverse) ++ '.' :: extension.toList)
  | none => bare

end AccountRelay.Path
