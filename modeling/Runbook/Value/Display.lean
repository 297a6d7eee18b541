import Runbook.Value.Basic
import Runbook.Decimal.Reader
import Runbook.Text.Quoted

/-! The text of a value: a text shows as itself, and as a quoted text inside another value. -/

namespace Runbook

open Text

namespace Date

/-- Four digits of the year, two of the month and of the day. -/
def iso (d : Date) : String :=
  String.ofList (padLeft 4 '0' (natText d.year) ++ '-' :: padLeft 2 '0' (natText d.month) ++
    '-' :: padLeft 2 '0' (natText d.day))

end Date

def twoDigits (n : Nat) : List Char := padLeft 2 '0' (natText n)

/-- An offset from universal time as hours and minutes, with seconds if there are any. -/
def offsetText (offset : Int) : List Char :=
  let n := offset.natAbs
  (if offset < 0 then '-' else '+') :: twoDigits (n / 3600) ++ ':' :: twoDigits (n % 3600 / 60) ++
    (if n % 60 = 0 then [] else ':' :: twoDigits (n % 60))

namespace Moment

def clock (m : Moment) : List Char :=
  twoDigits m.hour ++ ':' :: twoDigits m.minute ++ ':' :: twoDigits m.second ++
    (if m.micro = 0 then [] else '.' :: padLeft 6 '0' (natText m.micro))

def isoWith (sep : Char) (m : Moment) : String :=
  m.date.iso ++ String.ofList (sep :: m.clock ++ (m.offset.map offsetText).getD [])

end Moment

namespace Value

/-- The numbers of a moment, without the seconds and below at the end that are zero. -/
def momentFields (m : Moment) : List Nat :=
  [m.date.year, m.date.month, m.date.day, m.hour, m.minute] ++
    (if m.micro ≠ 0 then [m.second, m.micro] else if m.second ≠ 0 then [m.second] else [])

/-- A span of whole seconds, below one day in its second part. -/
def spanText (seconds : Int) : String :=
  let days := seconds.fdiv 86400
  let rest := seconds.fmod 86400
  let parts := (if days = 0 then [] else ["days=" ++ intText days]) ++
    (if rest = 0 then [] else ["seconds=" ++ intText rest])
  "datetime.timedelta(" ++ joinWith ", " (if parts.isEmpty then ["0"] else parts) ++ ")"

def zoneText (offset : Int) : String :=
  if offset = 0 then "datetime.timezone.utc" else "datetime.timezone(" ++ spanText offset ++ ")"

def momentText (m : Moment) : String :=
  let zone := (m.offset.map fun o => ["tzinfo=" ++ zoneText o]).getD []
  "datetime.datetime(" ++
    joinWith ", " ((momentFields m).map (fun n => String.ofList (natText n)) ++ zone) ++ ")"

def dateText (d : Date) : String :=
  "datetime.date(" ++
    joinWith ", " ([d.year, d.month, d.day].map fun n => String.ofList (natText n)) ++ ")"

mutual

/-- The text of a value inside another one or in a message. -/
def inner : Value → String
  | .null => "None"
  | .bool b => if b then "True" else "False"
  | .int n => intText n
  | .num x => Decimal.display x
  | .text s => quoted s
  | .bytes bs => quotedBytes bs
  | .date d => dateText d
  | .moment m => momentText m
  | .list xs => "[" ++ joinWith ", " (innerList xs) ++ "]"
  | .tuple xs =>
    match innerList xs with
    | [one] => "(" ++ one ++ ",)"
    | many => "(" ++ joinWith ", " many ++ ")"
  | .set xs => if xs.isEmpty then "set()" else "\x7b" ++ joinWith ", " (innerList xs) ++ "\x7d"
  | .map es => "\x7b" ++ joinWith ", " (innerEntries es) ++ "\x7d"

def innerList : List Value → List String
  | [] => []
  | v :: vs => inner v :: innerList vs

def innerEntries : List (Value × Value) → List String
  | [] => []
  | (k, v) :: es => (inner k ++ ": " ++ inner v) :: innerEntries es

end

/-- The text of a value on its own. -/
def display : Value → String
  | .text s => s
  | .date d => d.iso
  | .moment m => m.isoWith ' '
  | v => inner v

mutual

/-- Whether a value can be shown: no integer in it has more digits than are written at once. -/
def hasText : Value → Bool
  | .int n => (natText n.natAbs).length ≤ Decimal.maxIntDigits
  | .list xs => hasTextEach xs
  | .tuple xs => hasTextEach xs
  | .set xs => hasTextEach xs
  | .map es => hasTextEntries es
  | _ => true

def hasTextEach : List Value → Bool
  | [] => true
  | v :: vs => hasText v && hasTextEach vs

def hasTextEntries : List (Value × Value) → Bool
  | [] => true
  | (k, v) :: es => hasText k && hasText v && hasTextEntries es

end

end Value

end Runbook
