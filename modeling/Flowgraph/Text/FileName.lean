import Flowgraph.Value.Path

namespace Flowgraph.Text

def pathSteps (path : List Char) : List (List Char) :=
  (splitAt '/' path).filter fun s ↦ !s.isEmpty && s != ['.']

/-- The slashes that make a path start at the root: two stay two, more are one. -/
def pathRoot (path : List Char) : String :=
  match path with
  | '/' :: '/' :: '/' :: _ => "/"
  | '/' :: '/' :: _ => "//"
  | '/' :: _ => "/"
  | _ => ""

def plainPath (path : String) : String :=
  let steps := (pathSteps path.toList).map String.ofList
  let root := pathRoot path.toList
  if steps.isEmpty && root.isEmpty then "." else root ++ String.intercalate "/" steps

/-- The end of a file's name from its last point on, if there is something on both sides. -/
def suffix (path : String) : String :=
  let name := (pathSteps path.toList).getLastD []
  let ending := (name.reverse.takeWhile (· != '.')).reverse
  if ending.isEmpty || name.length ≤ ending.length + 1 then ""
  else String.ofList ('.' :: ending)

end Flowgraph.Text
