set_option autoImplicit false

/-!
Calendar dates of the years 1 to 9999, and times of day with an optional zone.
-/

namespace ShortVolume

/-- `n` in decimal with at least `width` digits. -/
def padded (width n : Nat) : String :=
  let ds := Nat.toDigits 10 n
  String.ofList (List.replicate (width - ds.length) '0' ++ ds)

structure Date where
  year : Nat
  month : Nat
  day : Nat
  deriving DecidableEq, Repr

namespace Date

def isLeap (year : Nat) : Bool := year % 4 == 0 && (year % 100 != 0 || year % 400 == 0)

def daysIn (year month : Nat) : Nat :=
  if month = 2 then (if isLeap year then 29 else 28)
  else if month = 4 ∨ month = 6 ∨ month = 9 ∨ month = 11 then 30 else 31

def isValid (d : Date) : Bool :=
  1 ≤ d.year && d.year ≤ 9999 && 1 ≤ d.month && d.month ≤ 12 && 1 ≤ d.day &&
    d.day ≤ daysIn d.year d.month

/-- The day after, which may lie beyond the last year. -/
def next (d : Date) : Date :=
  if d.day < daysIn d.year d.month then ⟨d.year, d.month, d.day + 1⟩
  else if d.month < 12 then ⟨d.year, d.month + 1, 1⟩
  else ⟨d.year + 1, 1, 1⟩

/-- The number of days from the first day of the calendar. -/
def ordinal (d : Date) : Nat :=
  let y := d.year - 1
  y * 365 + y / 4 - y / 100 + y / 400 +
    (List.range (d.month - 1)).foldl (fun n m => n + daysIn d.year (m + 1)) 0 + d.day

def text (d : Date) : String :=
  padded 4 d.year ++ "-" ++ padded 2 d.month ++ "-" ++ padded 2 d.day

end Date

/-- A distance from universal time, under the name it was written with. -/
structure Zone where
  minutes : Int
  name : String
  deriving DecidableEq, Repr

/-- A time of day on a date. -/
structure Timestamp where
  date : Date
  hour : Nat
  minute : Nat
  second : Nat
  micro : Nat
  zone : Option Zone
  deriving DecidableEq, Repr

namespace Timestamp

def isValid (t : Timestamp) : Bool :=
  t.date.isValid && t.hour < 24 && t.minute < 60 && t.second < 60 && t.micro < 1000000 &&
    (match t.zone with
     | some z => z.minutes.natAbs < 24 * 60
     | none => true)

def nextSecond (t : Timestamp) : Timestamp :=
  if t.second < 59 then { t with second := t.second + 1 }
  else if t.minute < 59 then { t with second := 0, minute := t.minute + 1 }
  else if t.hour < 23 then { t with second := 0, minute := 0, hour := t.hour + 1 }
  else { t with second := 0, minute := 0, hour := 0, date := t.date.next }

/-- The seconds from the start of the calendar to the time, in universal time if a zone is given. -/
def instant (t : Timestamp) : Int :=
  (t.date.ordinal : Int) * 86400 + t.hour * 3600 + t.minute * 60 + t.second -
    (match t.zone with
     | some z => z.minutes * 60
     | none => 0)

/-- Two times are the same when they name one instant; a time with a zone and one without never
are. -/
def same (s t : Timestamp) : Bool :=
  s.zone.isSome == t.zone.isSome && s.instant == t.instant && s.micro == t.micro

/-- The date and the time of day with the separator between them; the zone as hours and minutes. -/
def text (t : Timestamp) (separator : String) : String :=
  t.date.text ++ separator ++ padded 2 t.hour ++ ":" ++ padded 2 t.minute ++ ":" ++
    padded 2 t.second ++ (if t.micro = 0 then "" else "." ++ padded 6 t.micro) ++
    (match t.zone with
     | none => ""
     | some z =>
       (if z.minutes < 0 then "-" else "+") ++ padded 2 (z.minutes.natAbs / 60) ++ ":" ++
         padded 2 (z.minutes.natAbs % 60))

end Timestamp

end ShortVolume
