import Runbook.Value.Basic

/-! Days and moments of the Gregorian calendar. -/

namespace Runbook

def isLeapYear (year : Nat) : Bool := year % 4 = 0 && (year % 100 ≠ 0 || year % 400 = 0)

def daysInMonth (year month : Nat) : Nat :=
  if month = 2 then if isLeapYear year then 29 else 28
  else if month = 4 ∨ month = 6 ∨ month = 9 ∨ month = 11 then 30
  else 31

namespace Date

/-- Years have one to four digits and begin at 1. -/
def isValid (d : Date) : Bool :=
  1 ≤ d.year && d.year ≤ 9999 && 1 ≤ d.month && d.month ≤ 12 && 1 ≤ d.day &&
    d.day ≤ daysInMonth d.year d.month

/-- Days since the first of January of the year 1, which is day 1. -/
def ordinal (d : Date) : Nat :=
  let y := d.year - 1
  y * 365 + y / 4 - y / 100 + y / 400 +
    (List.range (d.month - 1)).foldl (fun days m => days + daysInMonth d.year (m + 1)) 0 + d.day

def next (d : Date) : Date :=
  if d.day < daysInMonth d.year d.month then { d with day := d.day + 1 }
  else if d.month < 12 then ⟨d.year, d.month + 1, 1⟩
  else ⟨d.year + 1, 1, 1⟩

/-- The date so many days later. -/
def plusDays (d : Date) : Nat → Date
  | 0 => d
  | n + 1 => d.next.plusDays n

end Date

namespace Moment

/-- The moment so many seconds later, in the same zone. -/
def plusSeconds (m : Moment) (n : Nat) : Moment :=
  let s := (m.hour * 60 + m.minute) * 60 + m.second + n
  { m with
    date := m.date.plusDays (s / 86400)
    hour := s / 3600 % 24
    minute := s / 60 % 60
    second := s % 60 }

def isValid (m : Moment) : Bool :=
  m.date.isValid && m.hour < 24 && m.minute < 60 && m.second < 60 && m.micro < 1000000 &&
    match m.offset with
    | some o => -86400 < o && o < 86400
    | none => true

/-- Microseconds of the calendar, without regard to the zone. -/
def localMicros (m : Moment) : Int :=
  ((((m.date.ordinal * 24 + m.hour) * 60 + m.minute) * 60 + m.second) * 1000000 + m.micro : Nat)

/-- Two moments with zones are the same if they name one instant; a moment without a zone is never
the same as one with a zone. -/
def same (a b : Moment) : Bool :=
  match a.offset, b.offset with
  | some p, some q => a.localMicros - p * 1000000 == b.localMicros - q * 1000000
  | none, none => a == b
  | _, _ => false

end Moment

end Runbook
