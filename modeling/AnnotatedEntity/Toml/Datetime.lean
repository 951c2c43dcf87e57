/-
Dates and times of a document, and their one written form: a `T` between day and clock, no zeros at
the end of a fraction, and an offset in hours and minutes unless it was written as `Z`.
-/

namespace AnnotatedEntity.Toml

structure Date where
  year : Nat
  month : Nat
  day : Nat
deriving Repr, DecidableEq, Inhabited

structure Time where
  hour : Nat
  minute : Nat
  second : Nat
  nanosecond : Nat
deriving Repr, DecidableEq, Inhabited

inductive Offset where
  | utc
  | minutes (east : Int)
deriving Repr, DecidableEq, Inhabited

inductive Datetime where
  | date (d : Date)
  | time (t : Time)
  | moment (d : Date) (t : Time) (offset : Option Offset)
deriving Repr, DecidableEq, Inhabited

/-! ## Calendar -/

def isLeapYear (year : Nat) : Bool := year % 4 = 0 && (year % 100 ≠ 0 || year % 400 = 0)

def daysIn (year month : Nat) : Nat :=
  match month with
  | 2 => if isLeapYear year then 29 else 28
  | 4 | 6 | 9 | 11 => 30
  | _ => 31

/-! ## Written form -/

/-- The digits of a number, with zeros in front up to a width. -/
def padded (width n : Nat) : String :=
  let digits := Nat.toDigits 10 n
  String.ofList (List.replicate (width - digits.length) '0' ++ digits)

def Date.text (d : Date) : String :=
  padded 4 d.year ++ "-" ++ padded 2 d.month ++ "-" ++ padded 2 d.day

/-- The point and the fraction of a second, if there is one. -/
def fractionText (nanosecond : Nat) : String :=
  if nanosecond = 0 then ""
  else
    "." ++ String.ofList ((padded 9 nanosecond).toList.reverse.dropWhile (· == '0')).reverse

def Time.text (t : Time) : String :=
  padded 2 t.hour ++ ":" ++ padded 2 t.minute ++ ":" ++ padded 2 t.second
    ++ fractionText t.nanosecond

def Offset.text : Offset → String
  | utc => "Z"
  | minutes east =>
    (if east < 0 then "-" else "+") ++ padded 2 (east.natAbs / 60) ++ ":"
      ++ padded 2 (east.natAbs % 60)

def Datetime.text : Datetime → String
  | date d => d.text
  | time t => t.text
  | moment d t offset => d.text ++ "T" ++ t.text ++ (offset.map Offset.text).getD ""

end AnnotatedEntity.Toml
