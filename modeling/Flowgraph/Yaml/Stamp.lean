import Flowgraph.Value.Basic

namespace Flowgraph.Yaml

/-- Hours, minutes, seconds and the digits of a fraction of a second. -/
structure Clock where
  hour : Nat
  minute : Nat
  second : Nat
  fraction : List Char

structure Zone where
  minutes : Int

structure Moment where
  year : Nat
  month : Nat
  day : Nat
  clock : Option (Clock × Option Zone)

def numeral (ds : List Char) : Nat := ds.foldl (fun n c ↦ 10 * n + (c.toNat - '0'.toNat)) 0

def takeDigits? (least most : Nat) (s : List Char) : Option (Nat × List Char) :=
  let ds := (s.take most).takeWhile Char.isDigit
  if ds.length < least then none else some (numeral ds, s.drop ds.length)

def takeChar? (c : Char) : List Char → Option (List Char)
  | d :: s => if c == d then some s else none
  | [] => none

def zone? (s : List Char) : Option (Option Zone) := do
  match s with
  | [] => return none
  | _ =>
    match s.dropWhile fun c ↦ c == ' ' || c == '\t' with
    | ['Z'] => return some ⟨0⟩
    | sign :: s =>
      if sign != '+' && sign != '-' then none
      else
        let (hours, s) ← takeDigits? 1 2 s
        let (minutes, s) ← match s with
          | ':' :: s => takeDigits? 2 2 s
          | _ => some (0, s)
        if !s.isEmpty then none
        else
          let total : Int := hours * 60 + minutes
          return some ⟨if sign == '-' then -total else total⟩
    | [] => none

def clock? (s : List Char) : Option (Clock × Option Zone) := do
  let s ← match s with
    | 'T' :: s | 't' :: s => some s
    | c :: _ =>
      if c == ' ' || c == '\t' then some (s.dropWhile fun c ↦ c == ' ' || c == '\t') else none
    | [] => none
  let (hour, s) ← takeDigits? 1 2 s
  let s ← takeChar? ':' s
  let (minute, s) ← takeDigits? 2 2 s
  let s ← takeChar? ':' s
  let (second, s) ← takeDigits? 2 2 s
  let (fraction, s) := match s with
    | '.' :: t => (t.takeWhile Char.isDigit, t.dropWhile Char.isDigit)
    | _ => ([], s)
  let zone ← zone? s
  return (⟨hour, minute, second, fraction⟩, zone)

def moment? (s : List Char) : Option Moment := do
  let (year, s) ← takeDigits? 4 4 s
  let s ← takeChar? '-' s
  let (month, s) ← takeDigits? 1 2 s
  let s ← takeChar? '-' s
  let (day, s) ← takeDigits? 1 2 s
  match s with
  | [] => return ⟨year, month, day, none⟩
  | s => return ⟨year, month, day, some (← clock? s)⟩

/-- Whether a text looks like a moment: a date without a time has to be written in full. -/
def looksLikeMoment (s : List Char) : Bool :=
  match moment? s with
  | some m => m.clock.isSome || s.length == 10
  | none => false

def isLeapYear (y : Nat) : Bool := y % 4 == 0 && (y % 100 != 0 || y % 400 == 0)

def daysInMonth (year month : Nat) : Nat :=
  if month == 2 then (if isLeapYear year then 29 else 28)
  else if [4, 6, 9, 11].contains month then 30 else 31

def Zone.deltaText (z : Zone) : String :=
  let seconds := z.minutes % 1440 * 60
  "datetime.timedelta(days=" ++ toString (z.minutes / 1440) ++
    (if seconds == 0 then "" else ", seconds=" ++ toString seconds) ++ ")"

def Zone.misfit? (z : Zone) : Option String :=
  if z.minutes.natAbs < 1440 then none
  else some ("offset must be a timedelta strictly between -timedelta(hours=24) and " ++
    "timedelta(hours=24), not " ++ z.deltaText ++ ".")

/-- What is wrong with the parts of a moment: the zone, or the first of the others in order of their
size. -/
def Moment.misfit? (m : Moment) : Option String :=
  let clock := m.clock.map (·.1)
  let exceeds (f : Clock → Nat) (top : Nat) : Bool := clock.any fun c ↦ top < f c
  (m.clock.bind (·.2)).bind Zone.misfit? <|>
  if m.year == 0 then some "year 0 is out of range"
  else if m.month == 0 || 12 < m.month then some "month must be in 1..12"
  else if m.day == 0 || daysInMonth m.year m.month < m.day then
    some "day is out of range for month"
  else if exceeds Clock.hour 23 then some "hour must be in 0..23"
  else if exceeds Clock.minute 59 then some "minute must be in 0..59"
  else if exceeds Clock.second 59 then some "second must be in 0..59"
  else none

def padded (width n : Nat) : String :=
  let ds := toString n
  String.ofList (List.replicate (width - ds.length) '0') ++ ds

def fractionText (ds : List Char) : String :=
  let six := ds.take 6 ++ List.replicate (6 - ds.length) '0'
  if six.all (· == '0') then "" else "." ++ String.ofList six

def Zone.text (z : Zone) : String :=
  let n := z.minutes.natAbs
  (if z.minutes < 0 then "-" else "+") ++ padded 2 (n / 60) ++ ":" ++ padded 2 (n % 60)

def Moment.toStamp (m : Moment) : Stamp :=
  let date := padded 4 m.year ++ "-" ++ padded 2 m.month ++ "-" ++ padded 2 m.day
  match m.clock with
  | none => ⟨date, false⟩
  | some (c, zone) =>
    let time := padded 2 c.hour ++ ":" ++ padded 2 c.minute ++ ":" ++ padded 2 c.second
    ⟨date ++ " " ++ time ++ fractionText c.fraction ++ (zone.map Zone.text).getD "", true⟩

end Flowgraph.Yaml
