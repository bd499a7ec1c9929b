import DeploymentRecipes.Text.Quoted

/-!
# Calendar values

Dates, and dates with a time of day and perhaps an offset from universal time: which ones exist,
and their written forms.
-/

namespace DeploymentRecipes

/-- A time of day with its offset from universal time in minutes, if it has one. -/
structure TimeOfDay where
  hour : Nat
  minute : Nat
  second : Nat
  microsecond : Nat
  offset : Option Int
  deriving DecidableEq

/-- A date, perhaps with a time of day. -/
structure Timestamp where
  year : Nat
  month : Nat
  day : Nat
  time : Option TimeOfDay
  deriving DecidableEq

namespace Timestamp

/-- What makes a calendar value impossible. -/
inductive Fault where
  | year (year : Nat)
  | month
  | day
  | hour
  | minute
  | second
  | offset (minutes : Int)

def isLeap (year : Nat) : Bool := (year % 4 == 0 && year % 100 != 0) || year % 400 == 0

def daysInMonth (year : Nat) : Nat → Nat
  | 2 => if isLeap year then 29 else 28
  | 4 | 6 | 9 | 11 => 30
  | _ => 31

/-- The first fault of a calendar value: an impossible offset, then date, then time of day. -/
def fault? (t : Timestamp) : Option Fault :=
  match t.time.bind (·.offset) with
  | some o => if o.natAbs ≥ 24 * 60 then some (.offset o) else dateFault
  | none => dateFault
where
  dateFault : Option Fault :=
    if t.year < 1 || t.year > 9999 then some (.year t.year)
    else if t.month < 1 || t.month > 12 then some .month
    else if t.day < 1 || t.day > daysInMonth t.year t.month then some .day
    else match t.time with
      | none => none
      | some c =>
        if c.hour > 23 then some .hour
        else if c.minute > 59 then some .minute
        else if c.second > 59 then some .second
        else none

/-- A span of minutes as days and seconds, the days rounded down. -/
def spanText (minutes : Int) : String :=
  let days := Int.fdiv minutes (24 * 60)
  let seconds := Int.fmod minutes (24 * 60) * 60
  let parts := (if days ≠ 0 then [s!"days={days}"] else []) ++
    (if seconds ≠ 0 then [s!"seconds={seconds}"] else [])
  "datetime.timedelta(" ++ (if parts.isEmpty then "0" else String.intercalate ", " parts) ++ ")"

def Fault.message : Fault → String
  | .year y => s!"year {y} is out of range"
  | .month => "month must be in 1..12"
  | .day => "day is out of range for month"
  | .hour => "hour must be in 0..23"
  | .minute => "minute must be in 0..59"
  | .second => "second must be in 0..59"
  | .offset m => "offset must be a timedelta strictly between -timedelta(hours=24) and " ++
      s!"timedelta(hours=24), not {spanText m}."

/-- A number with zeros in front up to the given width. -/
def padded (width n : Nat) : String :=
  let ds := Nat.toDigits 10 n
  String.ofList (List.replicate (width - ds.length) '0' ++ ds)

def dateText (t : Timestamp) : String :=
  s!"{padded 4 t.year}-{padded 2 t.month}-{padded 2 t.day}"

def offsetText (o : Int) : String :=
  (if o < 0 then "-" else "+") ++ padded 2 (o.natAbs / 60) ++ ":" ++ padded 2 (o.natAbs % 60)

def timeText (c : TimeOfDay) : String :=
  s!"{padded 2 c.hour}:{padded 2 c.minute}:{padded 2 c.second}" ++
    (if c.microsecond = 0 then "" else "." ++ padded 6 c.microsecond) ++
    (c.offset.map offsetText).getD ""

/-- The written form, with `between` between date and time. -/
def textWith (between : String) (t : Timestamp) : String :=
  dateText t ++ (match t.time with
    | none => ""
    | some c => between ++ timeText c)

/-- The standard form for interchange. -/
def iso (t : Timestamp) : String := textWith "T" t

/-- The form for readers. -/
def text (t : Timestamp) : String := textWith " " t

/-- The form inside a displayed list or mapping. -/
def shown (t : Timestamp) : String :=
  match t.time with
  | none => s!"datetime.date({t.year}, {t.month}, {t.day})"
  | some c =>
    let fraction := if c.microsecond ≠ 0 then s!", {c.second}, {c.microsecond}"
      else if c.second ≠ 0 then s!", {c.second}" else ""
    let zone := match c.offset with
      | none => ""
      | some 0 => ", tzinfo=datetime.timezone.utc"
      | some o => s!", tzinfo=datetime.timezone({spanText o})"
    s!"datetime.datetime({t.year}, {t.month}, {t.day}, {c.hour}, {c.minute}" ++ fraction ++ zone ++
      ")"

/-- The days before the given date, counted from the first day of the first year. -/
def dayNumber (t : Timestamp) : Nat :=
  let y := t.year - 1
  y * 365 + y / 4 - y / 100 + y / 400 +
    (List.range (t.month - 1)).foldl (fun n m => n + daysInMonth t.year (m + 1)) 0 + t.day

/-- Microseconds since the first year, in universal time when an offset is known. -/
def instant (t : Timestamp) (c : TimeOfDay) : Int :=
  let minutes : Int := ((t.dayNumber * 24 + c.hour) * 60 + c.minute : Nat)
  ((minutes - c.offset.getD 0) * 60 + c.second) * 1000000 + c.microsecond

/-- Equality of calendar values: those with an offset are compared as instants. -/
def same (t u : Timestamp) : Bool :=
  match t.time, u.time with
  | some c, some d =>
    c.offset.isSome == d.offset.isSome && t.instant c == u.instant d
  | none, none => t == u
  | _, _ => false

end Timestamp
end DeploymentRecipes
