import Turnstile.Text.Integer
import Turnstile.Toml.Layout
/-!
Dates and times of day in a TOML document. They are checked and kept as text in one form: with a `T`
between date and time, at most nine places of a second and no zeros after them, and a capital `Z`.
-/
namespace Turnstile.Toml

open Text Scan

def bounded (width lo hi : Nat) : Scan (List Char) := do
  let digits ← exactly width isDigit
  let n := decimalValue digits
  if lo ≤ n ∧ n ≤ hi then return digits else failure

def isLeapYear (year : Nat) : Bool := year % 4 == 0 && (year % 100 != 0 || year % 400 == 0)

def daysIn (year month : Nat) : Nat :=
  match month with
  | 2 => if isLeapYear year then 29 else 28
  | 4 | 6 | 9 | 11 => 30
  | _ => 31

def date : Scan (List Char) := do
  let year ← bounded 4 0 9999
  char '-'
  let month ← bounded 2 1 12
  char '-'
  let day ← bounded 2 1 (daysIn (decimalValue year) (decimalValue month))
  return year ++ '-' :: month ++ '-' :: day

def secondPlaces (digits : List Char) : List Char :=
  let places := ((digits.take 9).reverse.dropWhile (· == '0')).reverse
  if places.isEmpty then [] else '.' :: places

/-- Hours, minutes and seconds, with a fraction if there is one. A minute may have a leap second. -/
def timeOfDay : Scan (List Char) := do
  let hour ← bounded 2 0 23
  char ':'
  let minute ← bounded 2 0 59
  char ':'
  let second ← bounded 2 0 60
  let places ← optional? (char '.' *> run1 isDigit)
  return hour ++ ':' :: minute ++ ':' :: second ++ secondPlaces (places.getD [])

def clockOffset : Scan (List Char) :=
  (one (fun c => c == 'z' || c == 'Z') *> pure ['Z']) <|> do
    let sign ← one fun c => c == '+' || c == '-'
    let hours ← bounded 2 0 23
    char ':'
    let minutes ← bounded 2 0 59
    let same := decimalValue (hours ++ minutes) == 0
    return (if same then '+' else sign) :: hours ++ ':' :: minutes

def afterDate : Scan (List Char) := do
  discard (one fun c => c == 't' || c == 'T' || c == ' ')
  let time ← timeOfDay
  let offset ← optional? clockOffset
  return 'T' :: time ++ offset.getD []

def moment : Scan String :=
  (do
    let day ← date
    let rest ← optional? afterDate
    return String.ofList (day ++ rest.getD [])) <|>
  (String.ofList <$> timeOfDay)

example : whole moment "2024-02-29 10:00:60.50+01:00" = some "2024-02-29T10:00:60.5+01:00" := by
  decide +kernel
example : whole moment "2023-02-29" = none := by decide +kernel

end Turnstile.Toml
