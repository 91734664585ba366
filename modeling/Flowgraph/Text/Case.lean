import Flowgraph.Text.Case.Table

namespace Flowgraph.Text

def isLower (c : Char) : Bool := inRanges lowerRanges c

def isUpper (c : Char) : Bool := inRanges upperRanges c

def isTitle (c : Char) : Bool := inRanges titleRanges c

def isCased (c : Char) : Bool := isLower c || isUpper c || isTitle c

def isCaseIgnorable (c : Char) : Bool := inRanges ignorableRanges c

/-- The mapped form of a character, or `none` where the two tables leave it alone. -/
def mapped? (shifts : List CaseShift) (expansions : List (Nat × List Nat)) (c : Char) :
    Option (List Char) :=
  match shifts.find? (·.range.contains c.toNat) with
  | some s => some [Char.ofNat (c.toNat + s.distance).toNat]
  | none => (expansions.find? (·.1 == c.toNat)).map fun e ↦ e.2.map Char.ofNat

def upperForm (c : Char) : List Char :=
  (mapped? upperShifts upperExpansions c).getD [c]

def lowerForm (c : Char) : List Char :=
  (mapped? lowerShifts lowerExpansions c).getD [c]

def titleForm (c : Char) : List Char :=
  (mapped? titleShifts titleExpansions c).getD (upperForm c)

def foldedForm (c : Char) : List Char :=
  (mapped? foldShifts foldExpansions c).getD (lowerForm c)

def toUpper (s : List Char) : List Char := s.flatMap upperForm

def toFolded (s : List Char) : List Char := s.flatMap foldedForm

/-- Whether a capital sigma ends a word: a cased character comes before it and none after it,
characters that case passes over left aside. `before` is the reversed text to its left. -/
def endsWord (before after : List Char) : Bool :=
  let near (s : List Char) := (s.dropWhile isCaseIgnorable).head?.any isCased
  near before && !near after

def lowerFormIn (before : List Char) (c : Char) (after : List Char) : List Char :=
  if c == 'Σ' then [if endsWord before after then 'ς' else 'σ'] else lowerForm c

def mapInContext (f : List Char → Char → List Char → List Char) :
    List Char → List Char → List Char
  | _, [] => []
  | before, c :: after => f before c after ++ mapInContext f (c :: before) after

def toLower (s : List Char) : List Char := mapInContext lowerFormIn [] s

def capitalize (s : List Char) : List Char :=
  mapInContext (fun before c after ↦
    if before.isEmpty then titleForm c else lowerFormIn before c after) [] s

/-- Words in title case: a character after a cased one is lower, any other is title. -/
def toTitle (s : List Char) : List Char :=
  mapInContext (fun before c after ↦
    if before.head?.any isCased then lowerFormIn before c after else titleForm c) [] s

def swapCase (s : List Char) : List Char :=
  mapInContext (fun before c after ↦
    if isUpper c then lowerFormIn before c after
    else if isLower c then upperForm c
    else [c]) [] s

def allUpper (s : List Char) : Bool :=
  s.any isUpper && s.all fun c ↦ !(isLower c || isTitle c)

def allLower (s : List Char) : Bool :=
  s.any isLower && s.all fun c ↦ !(isUpper c || isTitle c)

/-- Upper or title case follows only uncased characters, lower case only cased ones. -/
def inTitleCase (s : List Char) : Bool :=
  s.any isCased && go false s
where
  go : Bool → List Char → Bool
    | _, [] => true
    | afterCased, c :: rest =>
      if isUpper c || isTitle c then !afterCased && go true rest
      else if isLower c then afterCased && go true rest
      else go false rest

end Flowgraph.Text
