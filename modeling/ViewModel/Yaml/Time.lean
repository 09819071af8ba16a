import ViewModel.Number.Text

/-!
Dates and times of day as they stand in YAML text, and their usual text.
-/

namespace ViewModel.Yaml

structure Date where
  year : Nat
  month : Nat
  day : Nat

/-- A time of day; `zone` is its distance from universal time in minutes. -/
structure Clock where
  hour : Nat
  minute : Nat
  second : Nat
  microsecond : Nat
  zone : Option Int

namespace Date

def isLeap (year : Nat) : Bool := year % 4 = 0 && (year % 100 ≠ 0 || year % 400 = 0)

def daysIn (year month : Nat) : Nat :=
  if month = 2 then (if isLeap year then 29 else 28)
  else if month ∈ [4, 6, 9, 11] then 30
  else 31

def isValid (d : Date) : Bool :=
  1 ≤ d.year && 1 ≤ d.month && d.month ≤ 12 && 1 ≤ d.day && d.day ≤ daysIn d.year d.month

end Date

def Clock.isValid (c : Clock) : Bool :=
  c.hour < 24 && c.minute < 60 && c.second < 60 && c.zone.all (·.natAbs < 24 * 60)

/-- A date, or a moment on that date. -/
structure Time where
  date : Date
  clock : Option Clock

namespace Time

def isValid (t : Time) : Bool := t.date.isValid && t.clock.all Clock.isValid

def digits (width n : Nat) : String :=
  String.ofList (NumberLayout.padded width (Nat.toDigits 10 n))

def zoneText (minutes : Int) : String :=
  (if minutes < 0 then "-" else "+") ++ digits 2 (minutes.natAbs / 60) ++ ":" ++
    digits 2 (minutes.natAbs % 60)

def clockText (c : Clock) : String :=
  digits 2 c.hour ++ ":" ++ digits 2 c.minute ++ ":" ++ digits 2 c.second ++
    (if c.microsecond = 0 then "" else "." ++ digits 6 c.microsecond) ++
    (c.zone.map zoneText).getD ""

def text (t : Time) : String :=
  let day := digits 4 t.date.year ++ "-" ++ digits 2 t.date.month ++ "-" ++ digits 2 t.date.day
  match t.clock with
  | none => day
  | some c => day ++ " " ++ clockText c

/-- Up to `most` digits, but no fewer than `least`, and what follows them. -/
def take? (least most : Nat) (cs : List Char) : Option (Nat × List Char) :=
  let ds := (cs.take most).takeWhile Char.isDigit
  if ds.length < least then none else some (Nat.ofDigitChars 10 ds 0, cs.drop ds.length)

def skip? (c : Char) : List Char → Option (List Char)
  | d :: rest => if d = c then some rest else none
  | [] => none

def isGap (c : Char) : Bool := c = ' ' || c = '\t'

/-- What parts the date from the time: a letter `T` or blanks. -/
def skipGap? : List Char → Option (List Char)
  | 'T' :: rest | 't' :: rest => some rest
  | c :: rest => if isGap c then some (rest.dropWhile isGap) else none
  | [] => none

/-- The first six digits of a fraction of a second. -/
def microseconds (ds : List Char) : Nat :=
  Nat.ofDigitChars 10 ((ds ++ List.replicate 6 '0').take 6) 0

/-- The zone that ends a time: nothing, `Z`, or hours and minutes with their sign. -/
def zone? (cs : List Char) : Option (Option Int) :=
  match cs.dropWhile isGap with
  | [] => if cs.isEmpty then some none else none
  | ['Z'] => some (some 0)
  | sign :: rest =>
      if sign = '+' ∨ sign = '-' then do
        let (hours, r) ← take? 1 2 rest
        let minutes ←
          match r with
          | [] => some 0
          | _ => do
              let (m, r) ← take? 2 2 (← skip? ':' r)
              if r.isEmpty then some m else none
        let distance : Int := hours * 60 + minutes
        some (some (if sign = '-' then -distance else distance))
      else none

def clock? (cs : List Char) : Option Clock := do
  let (hour, r) ← take? 1 2 cs
  let (minute, r) ← take? 2 2 (← skip? ':' r)
  let (second, r) ← take? 2 2 (← skip? ':' r)
  match r with
  | '.' :: r =>
      let fraction := r.takeWhile Char.isDigit
      return ⟨hour, minute, second, microseconds fraction, ← zone? (r.drop fraction.length)⟩
  | _ => return ⟨hour, minute, second, 0, ← zone? r⟩

/-- A text in the form of a date or a moment, whether there is such a day or not. -/
def ofChars? (cs : List Char) : Option Time := do
  let (year, r) ← take? 4 4 cs
  let (month, afterMonth) ← take? 1 2 (← skip? '-' r)
  let (day, afterDay) ← take? 1 2 (← skip? '-' afterMonth)
  if afterDay.isEmpty then
    if cs.length = 10 then return ⟨⟨year, month, day⟩, none⟩ else none
  else return ⟨⟨year, month, day⟩, some (← clock? (← skipGap? afterDay))⟩

end Time

example : ((Time.ofChars? "2001-12-14t21:59:43.10-05:00".toList).map Time.text) =
    some "2001-12-14 21:59:43.100000-05:00" := by decide +kernel

end ViewModel.Yaml
