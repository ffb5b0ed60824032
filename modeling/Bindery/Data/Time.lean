/-!
# Points in time

A point in time as it is written: the date, the time of day and the distance from universal time.

## Main definitions

- `Time` — a point in time
- `Time.days`, `Time.ofDays` — the days up to a date, and the date after so many days
- `Time.nanoseconds`, `Time.ofNanoseconds` — the distance from the beginning of 1970
- `Time.parse` — reads texts such as `2024-01-02T03:04:05.5+09:00`
- `Time.text` — writes such texts, without zeros at the end of the fraction
-/

namespace Bindery

/-- A point in time. -/
structure Time where
  year : Int
  month : Nat
  day : Nat
  hour : Nat
  minute : Nat
  second : Nat
  /-- Billionths of a second. -/
  nano : Nat
  /-- Seconds ahead of universal time, none for universal time itself. -/
  offset : Option Int
  deriving DecidableEq, Repr

namespace Time

/-- The beginning of the first year. -/
def zero : Time :=
  ⟨1, 1, 1, 0, 0, 0, 0, none⟩

instance : Inhabited Time :=
  ⟨zero⟩

/-- Whether a year has a leap day. -/
def isLeap (year : Int) : Bool :=
  year % 4 == 0 && (year % 100 != 0 || year % 400 == 0)

/-- How many days a month has. -/
def daysIn (year : Int) (month : Nat) : Nat :=
  if month == 2 then (if isLeap year then 29 else 28)
  else if month == 4 || month == 6 || month == 9 || month == 11 then 30
  else 31

/-- The number of a text of digits. -/
def number? (cs : List Char) : Option Nat :=
  if cs.all Char.isDigit then some (cs.foldl (fun n c => n * 10 + (c.toNat - 48)) 0) else none

/-- The number of two digits, if it lies in a range. -/
def pair? (a b : Char) (lo hi : Nat) : Option Nat := do
  let n ← number? [a, b]
  if lo ≤ n && n ≤ hi then some n else none

/-- The fraction of a second, and the text after it. Digits beyond the ninth are dropped. -/
def fraction? : List Char → Option (Nat × List Char)
  | '.' :: rest =>
    match rest.span Char.isDigit with
    | ([], _) => none
    | (digits, rest) =>
      let nine := (digits ++ List.replicate 9 '0').take 9
      (number? nine).map (·, rest)
  | cs => some (0, cs)

/-- The distance from universal time. -/
def offset? : List Char → Option (Option Int)
  | ['Z'] => some none
  | [sign, a, b, ':', c, d] => do
    let hours ← pair? a b 0 23
    let minutes ← pair? c d 0 59
    let total : Int := (hours * 60 + minutes) * 60
    if sign == '+' then some (some total)
    else if sign == '-' then some (some (-total))
    else none
  | _ => none

/-- Reads a point in time. -/
def parse : List Char → Option Time
  | y1 :: y2 :: y3 :: y4 :: '-' :: m1 :: m2 :: '-' :: d1 :: d2 :: 'T' :: h1 :: h2 :: ':' :: n1 :: n2 ::
      ':' :: s1 :: s2 :: rest => do
    let year ← number? [y1, y2, y3, y4]
    let month ← pair? m1 m2 1 12
    let day ← pair? d1 d2 1 (daysIn year month)
    let hour ← pair? h1 h2 0 23
    let minute ← pair? n1 n2 0 59
    let second ← pair? s1 s2 0 59
    let (nano, rest) ← fraction? rest
    let offset ← offset? rest
    return ⟨year, month, day, hour, minute, second, nano, offset⟩
  | _ => none

/-- A number with at least `width` digits. -/
def digits (width n : Nat) : String :=
  let cs := Nat.toDigits 10 n
  String.ofList (List.replicate (width - cs.length) '0' ++ cs)

/-- The fraction of a second, without zeros at its end. -/
def fractionText (nano : Nat) : String :=
  if nano == 0 then ""
  else "." ++ String.ofList ((digits 9 nano).toList.reverse.dropWhile (· == '0')).reverse

/-- A number with at least `width` digits after its sign. -/
def signedDigits (width : Nat) (n : Int) : String :=
  if n < 0 then "-" ++ digits width n.natAbs else digits width n.natAbs

/-- The sign, the hours and the minutes of a distance from universal time. -/
def offsetParts (seconds : Int) : String × Nat × Nat :=
  let minutes := Int.tdiv seconds 60
  (if minutes < 0 then "-" else "+", minutes.natAbs / 60, minutes.natAbs % 60)

/-- The distance from universal time, which is `Z` if there is none. -/
def offsetText : Option Int → String
  | none => "Z"
  | some 0 => "Z"
  | some n =>
    let (sign, hours, minutes) := offsetParts n
    sign ++ digits 2 hours ++ ":" ++ digits 2 minutes

/-- The text of a point in time without its fraction of a second. -/
def textWithoutFraction (t : Time) : String :=
  signedDigits 4 t.year ++ "-" ++ digits 2 t.month ++ "-" ++ digits 2 t.day ++ "T" ++ digits 2 t.hour ++
    ":" ++ digits 2 t.minute ++ ":" ++ digits 2 t.second

/-- The text of a point in time. -/
def text (t : Time) : String :=
  t.textWithoutFraction ++ fractionText t.nano ++ offsetText t.offset

/-- How many days lie between the beginning of 1970 and a date. Years are taken to begin in March. -/
def days (year : Int) (month day : Nat) : Int :=
  let y := if month ≤ 2 then year - 1 else year
  let era := Int.fdiv y 400
  let yearOfEra := (y - era * 400).toNat
  let dayOfYear := (153 * ((month + 9) % 12) + 2) / 5 + day - 1
  era * 146097 + (yearOfEra * 365 + yearOfEra / 4 - yearOfEra / 100 + dayOfYear : Nat) - 719468

/-- The year, month and day so many days after the beginning of 1970. -/
def ofDays (n : Int) : Int × Nat × Nat :=
  let z := n + 719468
  let era := Int.fdiv z 146097
  let dayOfEra := (z - era * 146097).toNat
  let yearOfEra := (dayOfEra - dayOfEra / 1460 + dayOfEra / 36524 - dayOfEra / 146096) / 365
  let dayOfYear := dayOfEra - (365 * yearOfEra + yearOfEra / 4 - yearOfEra / 100)
  let shifted := (5 * dayOfYear + 2) / 153
  let month := if shifted < 10 then shifted + 3 else shifted - 9
  let year := era * 400 + yearOfEra
  (if month ≤ 2 then year + 1 else year, month, dayOfYear - (153 * shifted + 2) / 5 + 1)

/-- Billionths of a second since the beginning of 1970 in universal time. -/
def nanoseconds (t : Time) : Int :=
  let seconds := days t.year t.month t.day * 86400 + t.hour * 3600 + t.minute * 60 + t.second
  (seconds - t.offset.getD 0) * 1000000000 + t.nano

/-- The point in time so many billionths of a second after the beginning of 1970, as it is written at a
distance from universal time. -/
def ofNanoseconds (offset : Option Int) (n : Int) : Time :=
  let seconds := Int.fdiv n 1000000000 + offset.getD 0
  let dayNumber := Int.fdiv seconds 86400
  let inDay := (seconds - dayNumber * 86400).toNat
  let (year, month, day) := ofDays dayNumber
  ⟨year, month, day, inDay / 3600, inDay / 60 % 60, inDay % 60,
    (n - Int.fdiv n 1000000000 * 1000000000).toNat, offset⟩

/-- Whether a point in time is the beginning of the first year in universal time. -/
def isFirst (t : Time) : Bool :=
  t.nanoseconds == zero.nanoseconds

/-- The day of the week, from Sunday on. -/
def weekday (t : Time) : Nat :=
  (Int.emod (days t.year t.month t.day + 4) 7).toNat

/-- The day of the year, from one on. -/
def yearDay (t : Time) : Nat :=
  (days t.year t.month t.day - days t.year 1 1).toNat + 1

end Time

end Bindery
