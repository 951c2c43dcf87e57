/-
Dates, times and both together, with each part in its range.
-/
import AnnotatedEntity.Text.Integer
import AnnotatedEntity.Toml.Datetime
import AnnotatedEntity.Toml.Grammar.Space

namespace AnnotatedEntity.Toml.Grammar

open Text (Reader)

open Text.Reader

/-- A number of just this many digits, between two bounds. -/
def fixedNumber (width least greatest : Nat) : Reader Nat := do
  let digits ← (List.replicate width ()).mapM fun _ => satisfy Char.isDigit
  let n := Text.digitsValue 10 digits
  guard (least ≤ n && n ≤ greatest)
  return n

def date : Reader Date := do
  let year ← fixedNumber 4 0 9999
  let _ ← char '-'
  let month ← fixedNumber 2 1 12
  let _ ← char '-'
  let day ← fixedNumber 2 1 (daysIn year month)
  return { year, month, day }

/-- The fraction of a second, to the billionth; further digits are dropped. -/
def nanosecond : Reader Nat := do
  let _ ← char '.'
  let digits ← someSpan Char.isDigit
  return Text.digitsValue 10 ((digits ++ List.replicate 9 '0').take 9)

/-- A time of day. A minute may have a leap second. -/
def time : Reader Time := do
  let hour ← fixedNumber 2 0 23
  let _ ← char ':'
  let minute ← fixedNumber 2 0 59
  let _ ← char ':'
  let second ← fixedNumber 2 0 60
  return { hour, minute, second, nanosecond := (← optionally nanosecond).getD 0 }

def offset : Reader Offset :=
  (do
    let _ ← satisfy fun c => c == 'Z' || c == 'z'
    return .utc)
  <|> do
    let sign ← satisfy fun c => c == '+' || c == '-'
    let hour ← fixedNumber 2 0 23
    let _ ← char ':'
    let minute ← fixedNumber 2 0 59
    let east : Int := hour * 60 + minute
    return .minutes (if sign = '-' then -east else east)

/-- A time and perhaps its offset, after a day. -/
def timeOfDay : Reader (Time × Option Offset) := do
  let _ ← satisfy fun c => c == 'T' || c == 't' || c == ' '
  return (← time, ← optionally offset)

def datetime : Reader Datetime :=
  (do
    let d ← date
    match ← optionally timeOfDay with
    | some (t, offset) => return .moment d t offset
    | none => return .date d)
  <|> (do return .time (← time))

end AnnotatedEntity.Toml.Grammar
