/-!
Dates, times of day and moments, as data files hold them, and their written forms: year-month-day,
a colon between hours, minutes and seconds, and a six-digit fraction when it is not zero; and the calls
that make them, with what is zero at their end left out.
-/

namespace Shorthand

/-- A day of the Gregorian calendar. -/
structure Date where
  year : Nat
  month : Nat
  day : Nat
deriving DecidableEq, Repr

/-- A time of day, to the microsecond. -/
structure TimeOfDay where
  hour : Nat
  minute : Nat
  second : Nat
  microsecond : Nat
deriving DecidableEq, Repr

/-- A day and a time on it; `offset` is the distance from universal time in minutes, if known. -/
structure Moment where
  date : Date
  time : TimeOfDay
  offset : Option Int
deriving DecidableEq, Repr

def isLeapYear (year : Nat) : Bool := year % 4 = 0 && (year % 100 ≠ 0 || year % 400 = 0)

def daysInMonth (year month : Nat) : Nat :=
  if month = 2 then (if isLeapYear year then 29 else 28)
  else if month ∈ [4, 6, 9, 11] then 30
  else 31

/-- Whether the day exists; years count from one. -/
def Date.exists (d : Date) : Bool :=
  1 ≤ d.year && d.year ≤ 9999 && 1 ≤ d.month && d.month ≤ 12 &&
    1 ≤ d.day && d.day ≤ daysInMonth d.year d.month

/-- A number with zeros in front, up to the width. -/
def padded (width n : Nat) : String :=
  let ds := (toString n).toList
  String.ofList (List.replicate (width - ds.length) '0' ++ ds)

def Date.text (d : Date) : String :=
  padded 4 d.year ++ "-" ++ padded 2 d.month ++ "-" ++ padded 2 d.day

def TimeOfDay.text (t : TimeOfDay) : String :=
  padded 2 t.hour ++ ":" ++ padded 2 t.minute ++ ":" ++ padded 2 t.second ++
    (if t.microsecond = 0 then "" else "." ++ padded 6 t.microsecond)

/-- An offset as sign, hours and minutes. -/
def offsetText (minutes : Int) : String :=
  (if minutes < 0 then "-" else "+") ++
    padded 2 (minutes.natAbs / 60) ++ ":" ++ padded 2 (minutes.natAbs % 60)

/-- The moment with its offset in figures; `mark` stands between the day and the time. -/
def Moment.textWith (mark : String) (m : Moment) : String :=
  m.date.text ++ mark ++ m.time.text ++ (m.offset.map offsetText).getD ""

/-- The moment as data formats write it. -/
def Moment.text (m : Moment) : String := m.textWith "T"

/-- The moment as it is written in a text. -/
def Moment.spacedText (m : Moment) : String := m.textWith " "

/-- The moment with universal time marked by a letter. -/
def Moment.shortText (m : Moment) : String :=
  if m.offset = some 0 then m.date.text ++ "T" ++ m.time.text ++ "Z" else m.text

/-- The call of a maker of the calendar. -/
def callText (maker : String) (arguments : List String) : String :=
  "datetime." ++ maker ++ "(" ++ ", ".intercalate arguments ++ ")"

def Date.arguments (d : Date) : List String := [d.year, d.month, d.day].map toString

/-- The parts of a time; seconds and microseconds that are zero are left out at the end. -/
def TimeOfDay.arguments (t : TimeOfDay) : List String :=
  ([t.hour, t.minute] ++
    if t.microsecond ≠ 0 then [t.second, t.microsecond]
    else if t.second ≠ 0 then [t.second] else []).map toString

/-- An offset as a call. A span of time before midnight is a day less and the seconds up to it. -/
def offsetLiteral (minutes : Int) : String :=
  if minutes = 0 then "datetime.timezone.utc"
  else
    let days := minutes.fdiv (24 * 60)
    let seconds := minutes.fmod (24 * 60) * 60
    callText "timezone" [callText "timedelta"
      ((if days = 0 then [] else ["days=" ++ toString days]) ++
        if seconds = 0 then [] else ["seconds=" ++ toString seconds])]

def Date.literal (d : Date) : String := callText "date" d.arguments

def TimeOfDay.literal (t : TimeOfDay) : String := callText "time" t.arguments

def Moment.literal (m : Moment) : String :=
  callText "datetime" (m.date.arguments ++ m.time.arguments ++
    (m.offset.map fun minutes => "tzinfo=" ++ offsetLiteral minutes).toList)

end Shorthand
