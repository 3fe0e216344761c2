set_option autoImplicit false

namespace PipelineLint

structure Day where
  year : Nat
  month : Nat
  day : Nat
deriving DecidableEq, Inhabited

structure Clock where
  hour : Nat
  minute : Nat
  second : Nat
  microsecond : Nat
deriving DecidableEq, Inhabited

inductive Moment where
  | day (day : Day)
  | clock (clock : Clock)
  | both (day : Day) (clock : Clock) (offset : Option Int)
deriving DecidableEq, Inhabited

namespace Day

def isLeapYear (year : Nat) : Bool :=
  year % 4 = 0 && (year % 100 ≠ 0 || year % 400 = 0)

def daysIn (year month : Nat) : Nat :=
  if month = 2 then (if isLeapYear year then 29 else 28)
  else if [4, 6, 9, 11].contains month then 30
  else 31

def isReal (d : Day) : Bool :=
  0 < d.year && d.year < 10000 && 0 < d.month && d.month < 13 && 0 < d.day &&
    d.day ≤ daysIn d.year d.month

def ordinal (d : Day) : Nat :=
  let years := d.year - 1
  365 * years + years / 4 - years / 100 + years / 400 +
    (List.range (d.month - 1)).foldl (fun days month => days + daysIn d.year (month + 1)) d.day

end Day

namespace Moment

def instant? : Moment → Option Int
  | .both d c (some offset) =>
      some ((((d.ordinal : Int) * 24 + c.hour) * 60 + c.minute - offset) * 60000000 +
        c.second * 1000000 + c.microsecond)
  | _ => none

-- Whether two moments are the same; those with offsets are so if it is the same instant.
def isSame (a b : Moment) : Bool :=
  match a.instant?, b.instant? with
  | some x, some y => x == y
  | _, _ => decide (a = b)

theorem isSame_refl (a : Moment) : a.isSame a = true := by
  unfold isSame
  split <;> simp_all

def padded (width n : Nat) : String :=
  let digits := Nat.toDigits 10 n
  String.ofList (List.replicate (width - digits.length) '0' ++ digits)

def dayDisplay (d : Day) : String :=
  padded 4 d.year ++ "-" ++ padded 2 d.month ++ "-" ++ padded 2 d.day

def clockDisplay (c : Clock) : String :=
  padded 2 c.hour ++ ":" ++ padded 2 c.minute ++ ":" ++ padded 2 c.second ++
    (if c.microsecond = 0 then "" else "." ++ padded 6 c.microsecond)

def offsetDisplay (minutes : Int) : String :=
  let size := minutes.natAbs
  (if minutes < 0 then "-" else "+") ++ padded 2 (size / 60) ++ ":" ++ padded 2 (size % 60)

def display : Moment → String
  | .day d => dayDisplay d
  | .clock c => clockDisplay c
  | .both d c offset =>
      dayDisplay d ++ " " ++ clockDisplay c ++ (offset.map offsetDisplay).getD ""

def dayFields (d : Day) : List Nat := [d.year, d.month, d.day]

-- The fields of a time of day up to the last one that has to be told.
def clockFields (c : Clock) : List Nat :=
  [c.hour, c.minute] ++
    (if c.microsecond ≠ 0 then [c.second, c.microsecond]
     else if c.second ≠ 0 then [c.second]
     else [])

def fieldTexts (fields : List Nat) : List String :=
  fields.map fun n => String.ofList (Nat.toDigits 10 n)

-- An offset as a literal. A negative one is a day back and the rest forward.
def offsetLiteral (minutes : Int) : String :=
  if minutes = 0 then "datetime.timezone.utc"
  else
    let size :=
      if minutes < 0 then
        "days=-1, seconds=" ++ String.ofList (Nat.toDigits 10 (86400 - 60 * minutes.natAbs))
      else "seconds=" ++ String.ofList (Nat.toDigits 10 (60 * minutes.natAbs))
    "datetime.timezone(datetime.timedelta(" ++ size ++ "))"

def literal : Moment → String
  | .day d => "datetime.date(" ++ ", ".intercalate (fieldTexts (dayFields d)) ++ ")"
  | .clock c => "datetime.time(" ++ ", ".intercalate (fieldTexts (clockFields c)) ++ ")"
  | .both d c offset =>
      let zone :=
        match offset with
        | some minutes => ["tzinfo=" ++ offsetLiteral minutes]
        | none => []
      "datetime.datetime(" ++
        ", ".intercalate (fieldTexts (dayFields d ++ clockFields c) ++ zone) ++ ")"

end Moment

end PipelineLint
