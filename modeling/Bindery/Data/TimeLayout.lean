import Bindery.Data.Time

/-!
# Layouts of points in time

A layout shows how a certain point in time is written, the second of January 2006 at four minutes and
five seconds past three in the afternoon, seven hours behind universal time. Another point in time is
written in the same way.

## Main definitions

- `TimePart`, `TimePart.ofLayout` — a part of a layout, and the parts of one
- `TimePart.write`, `writeParts` — writes a point in time
- `readParts?` — reads a point in time
- `TimeFormat`, `TimeFormat.ofName?` — a way to write points in time, and the one that a name stands for
-/

namespace Bindery

/-- How the distance from universal time is written. -/
inductive OffsetStyle where
  | hours
  | minutes
  | colonMinutes
  | seconds
  | colonSeconds
  deriving DecidableEq, Repr

/-- How a number is filled up to its width. -/
inductive Fill where
  | none
  | blank
  | zero
  deriving DecidableEq, Repr

/-- A part of a layout. -/
inductive TimePart where
  | literal (cs : List Char)
  | year
  | shortYear
  | monthName (long : Bool)
  | month (fill : Fill)
  | weekdayName (long : Bool)
  | day (fill : Fill)
  | yearDay (fill : Fill)
  | hour
  | hour12 (fill : Fill)
  | minute (fill : Fill)
  | second (fill : Fill)
  | half (upper : Bool)
  | zone
  /-- The distance from universal time, which may be the letter for none. -/
  | offset (letter : Bool) (style : OffsetStyle)
  /-- A fraction of a second with a number of digits, or without zeros at its end. -/
  | fraction (separator : Char) (digits : Nat) (trimmed : Bool)
  deriving DecidableEq, Repr

/-- The names of the months. -/
def monthNames : List String :=
  ["January", "February", "March", "April", "May", "June", "July", "August", "September", "October",
   "November", "December"]

/-- The names of the days of the week. -/
def weekdayNames : List String :=
  ["Sunday", "Monday", "Tuesday", "Wednesday", "Thursday", "Friday", "Saturday"]

/-- A name or its first three letters. -/
def longOrShort (long : Bool) (name : String) : String :=
  if long then name else String.ofList (name.toList.take 3)

namespace TimePart

/-- The parts of a layout with a fixed spelling, those tried first before others. -/
def spellings : List (String × TimePart) :=
  [("January", .monthName true), ("Monday", .weekdayName true), ("MST", .zone),
   ("01", .month .zero), ("02", .day .zero), ("03", .hour12 .zero), ("04", .minute .zero),
   ("05", .second .zero), ("06", .shortYear), ("002", .yearDay .zero), ("15", .hour), ("1", .month .none),
   ("2006", .year), ("2", .day .none), ("__2", .yearDay .blank), ("3", .hour12 .none),
   ("4", .minute .none), ("5", .second .none), ("PM", .half true), ("pm", .half false),
   ("-070000", .offset false .seconds), ("-07:00:00", .offset false .colonSeconds),
   ("-0700", .offset false .minutes), ("-07:00", .offset false .colonMinutes),
   ("-07", .offset false .hours), ("Z070000", .offset true .seconds),
   ("Z07:00:00", .offset true .colonSeconds), ("Z0700", .offset true .minutes),
   ("Z07:00", .offset true .colonMinutes), ("Z07", .offset true .hours)]

/-- The part at the beginning of a layout, and the layout after it. -/
def first? (cs : List Char) : Option (TimePart × List Char) :=
  let startsLower := fun (cs : List Char) => cs.head?.any fun c => 'a' ≤ c && c ≤ 'z'
  match spellings.find? fun (s, _) => s.toList.isPrefixOf cs with
  | some (s, part) => some (part, cs.drop s.length)
  | none =>
    match cs with
    | 'J' :: 'a' :: 'n' :: rest => if startsLower rest then none else some (.monthName false, rest)
    | 'M' :: 'o' :: 'n' :: rest => if startsLower rest then none else some (.weekdayName false, rest)
    | '_' :: '2' :: rest => if "006".toList.isPrefixOf rest then none else some (.day .blank, rest)
    | c :: d :: rest =>
      if (c == '.' || c == ',') && (d == '0' || d == '9') then
        let more := rest.takeWhile (· == d)
        let after := rest.dropWhile (· == d)
        if after.head?.any Char.isDigit then none
        else some (.fraction c (more.length + 1) (d == '9'), after)
      else none
    | _ => none

/-- Puts a character before parts. -/
def consLiteral (c : Char) : List TimePart → List TimePart
  | .literal cs :: rest => .literal (c :: cs) :: rest
  | parts => .literal [c] :: parts

/-- The parts of a layout. -/
def ofChars : (fuel : Nat) → List Char → List TimePart
  | 0, _ | _, [] => []
  | fuel + 1, c :: cs =>
    match first? (c :: cs) with
    | some (part, rest) => part :: ofChars fuel rest
    | none => consLiteral c (ofChars fuel cs)

/-- The parts of a layout. -/
def ofLayout (layout : String) : List TimePart :=
  ofChars layout.length layout.toList

/-- A number filled up to a width. -/
def filled (fill : Fill) (width n : Nat) : String :=
  let cs := Nat.toDigits 10 n
  match fill with
  | .none => String.ofList cs
  | .blank => String.ofList (List.replicate (width - cs.length) ' ' ++ cs)
  | .zero => Time.digits width n

/-- The distance from universal time. -/
def offsetText (style : OffsetStyle) (seconds : Int) : String :=
  let (sign, hours, minutes) := Time.offsetParts seconds
  let h := sign ++ Time.digits 2 hours
  let m := Time.digits 2 minutes
  let s := Time.digits 2 (seconds.natAbs % 60)
  match style with
  | .hours => h
  | .minutes => h ++ m
  | .colonMinutes => h ++ ":" ++ m
  | .seconds => h ++ m ++ s
  | .colonSeconds => h ++ ":" ++ m ++ ":" ++ s

/-- A fraction of a second. -/
def fractionText (separator : Char) (count : Nat) (trimmed : Bool) (nano : Nat) : String :=
  let cs := (Time.digits 9 nano).toList.take count
  let kept := if trimmed then (cs.reverse.dropWhile (· == '0')).reverse else cs
  if kept.isEmpty then "" else String.ofList (separator :: kept)

/-- The hour on a dial of twelve. -/
def dialHour (hour : Nat) : Nat :=
  if hour % 12 == 0 then 12 else hour % 12

/-- Writes one part of a point in time. -/
def write (t : Time) : TimePart → String
  | literal cs => String.ofList cs
  | year => Time.signedDigits 4 t.year
  | shortYear => Time.digits 2 (t.year.toNat % 100)
  | monthName long => longOrShort long (monthNames.getD (t.month - 1) "")
  | month fill => filled fill 2 t.month
  | weekdayName long => longOrShort long (weekdayNames.getD t.weekday "")
  | day fill => filled fill 2 t.day
  | yearDay fill => filled fill 3 t.yearDay
  | hour => Time.digits 2 t.hour
  | hour12 fill => filled fill 2 (dialHour t.hour)
  | minute fill => filled fill 2 t.minute
  | second fill => filled fill 2 t.second
  | half upper =>
    if t.hour < 12 then (if upper then "AM" else "am") else (if upper then "PM" else "pm")
  | zone =>
    match t.offset with
    | none | some 0 => "UTC"
    | some n => offsetText .minutes n
  | offset letter style =>
    let n := t.offset.getD 0
    if letter && n == 0 then "Z" else offsetText style n
  | fraction separator count trimmed => fractionText separator count trimmed t.nano

end TimePart

/-- Writes a point in time. -/
def writeParts (parts : List TimePart) (t : Time) : String :=
  String.join (parts.map (TimePart.write t))

/-- What is read of a point in time. -/
structure TimeReading where
  year : Int := 0
  month : Option Nat := none
  day : Option Nat := none
  yearDay : Option Nat := none
  hour : Nat := 0
  minute : Nat := 0
  second : Nat := 0
  nano : Nat := 0
  /-- Whether an afternoon hour is named, or one of the morning. -/
  afternoon : Option Bool := none
  /-- Whether universal time is named. -/
  universal : Bool := false
  /-- Seconds ahead of universal time. -/
  offset : Option Int := none
  /-- The name of the zone. -/
  zone : List Char := []

namespace TimeReading

/-- The text after a literal. Blanks stand for any number of blanks. -/
def skip? : (fuel : Nat) → (literal value : List Char) → Option (List Char)
  | 0, _, _ => none
  | _ + 1, [], value => some value
  | fuel + 1, c :: rest, value =>
    if c == ' ' then
      if value.head?.any (· != ' ') then none
      else skip? fuel (rest.dropWhile (· == ' ')) (value.dropWhile (· == ' '))
    else
      match value with
      | d :: value => if c == d then skip? fuel rest value else none
      | [] => none

/-- The number of digits. -/
def digitsValue (cs : List Char) : Nat :=
  cs.foldl (fun n c => n * 10 + (c.toNat - 48)) 0

/-- A number of at most `most` digits, or of exactly so many, and the text after it. -/
def number? (most : Nat) (exact : Bool) (cs : List Char) : Option (Nat × List Char) :=
  let digits := (cs.take most).takeWhile Char.isDigit
  if digits.isEmpty || exact && digits.length != most then none
  else some (digitsValue digits, cs.drop digits.length)

/-- A number that may have a sign. -/
def signed? (cs : List Char) : Option Int :=
  let read := fun (digits : List Char) =>
    if digits.all Char.isDigit then some (Int.ofNat (digitsValue digits)) else none
  match cs with
  | '-' :: digits => (read digits).map (- ·)
  | '+' :: digits => read digits
  | digits => read digits

/-- The place of a name in a list, in letters of any case, and the text after it. -/
def name? (names : List String) (cs : List Char) : Option (Nat × List Char) :=
  let fits := fun (name : String) =>
    name.length ≤ cs.length && (cs.take name.length).map Char.toLower == name.toList.map Char.toLower
  match names.findIdx? fits with
  | some i => some (i, cs.drop ((names.getD i "").length))
  | none => none

/-- A fraction of a second after its separator, in billionths. -/
def nano? (cs : List Char) : Option Nat := do
  let nine := cs.take 9
  let n ← signed? nine
  if n < 0 then none else some (n.toNat * Nat.pow 10 (9 - nine.length))

/-- Whether a character separates a fraction of a second. -/
def isSeparator (c : Char) : Bool :=
  c == '.' || c == ','

/-- The length of a distance of hours with a sign, zero if there is none. -/
def signedHours (cs : List Char) : Nat :=
  match cs with
  | c :: rest =>
    let digits := rest.takeWhile Char.isDigit
    if (c == '+' || c == '-') && !digits.isEmpty && digitsValue digits ≤ 23 then digits.length + 1 else 0
  | [] => 0

/-- The length of the name of a zone. -/
def zoneLength? (cs : List Char) : Option Nat :=
  let start := fun (n : Nat) => String.ofList (cs.take n)
  let capitals := ((cs.take 6).takeWhile fun c => 'A' ≤ c && c ≤ 'Z').length
  if cs.length < 3 then none
  else if start 4 == "ChST" || start 4 == "MeST" then some 4
  else if start 3 == "GMT" then some (3 + signedHours (cs.drop 3))
  else if start 1 == "+" || start 1 == "-" then
    match signedHours cs with
    | 0 => none
    | n => some n
  else if capitals == 3 then some 3
  else if capitals == 4 && (cs[3]? == some 'T' || start 4 == "WITA") then some 4
  else if capitals == 5 && cs[4]? == some 'T' then some 5
  else none

/-- The places of the minutes and the seconds in a distance from universal time, and its length. -/
def offsetPlaces : OffsetStyle → Option Nat × Option Nat × Nat
  | .hours => (none, none, 3)
  | .minutes => (some 3, none, 5)
  | .colonMinutes => (some 4, none, 6)
  | .seconds => (some 3, some 5, 7)
  | .colonSeconds => (some 4, some 7, 9)

/-- A distance from universal time in seconds, and the text after it. -/
def offset? (style : OffsetStyle) (cs : List Char) : Option (Int × List Char) := do
  let (minutes, seconds, length) := offsetPlaces style
  let colons := match style with
    | .colonMinutes => cs[3]? == some ':'
    | .colonSeconds => cs[3]? == some ':' && cs[6]? == some ':'
    | _ => true
  let two := fun (place : Option Nat) => match place with
    | some i => (number? 2 true ((cs.drop i).take 2)).map (·.1)
    | none => some 0
  if cs.length < length || !colons then none
  else
    let h ← two (some 1)
    let m ← two minutes
    let s ← two seconds
    if h > 24 || m > 60 || s > 60 then none
    else
      let total : Int := (h * 60 + m) * 60 + s
      match cs with
      | '+' :: _ => some (total, cs.drop length)
      | '-' :: _ => some (-total, cs.drop length)
      | _ => none

/-- Reads one part. The next part that is no literal tells whether the seconds may have a fraction. -/
def read? (r : TimeReading) (part : TimePart) (next : Option TimePart) (cs : List Char) :
    Option (TimeReading × List Char) := do
  match part with
  | .literal l => (skip? (l.length + 1) l cs).map fun cs => (r, cs)
  | .year =>
    if !cs.head?.any Char.isDigit || cs.length < 4 then none
    else return ({ r with year := ← signed? (cs.take 4) }, cs.drop 4)
  | .shortYear =>
    if cs.length < 2 then none
    else
      let y ← signed? (cs.take 2)
      return ({ r with year := if 69 ≤ y then y + 1900 else y + 2000 }, cs.drop 2)
  | .monthName long =>
    let (i, cs) ← name? (monthNames.map (longOrShort long)) cs
    return ({ r with month := some (i + 1) }, cs)
  | .month fill =>
    let (n, cs) ← number? 2 (fill == .zero) cs
    if n == 0 || 12 < n then none else return ({ r with month := some n }, cs)
  | .weekdayName long => (name? (weekdayNames.map (longOrShort long)) cs).map fun (_, cs) => (r, cs)
  | .day fill =>
    let cs := if fill == .blank && cs.head? == some ' ' then cs.tail else cs
    let (n, cs) ← number? 2 (fill == .zero) cs
    return ({ r with day := some n }, cs)
  | .yearDay fill =>
    let blanks := ((cs.take 2).takeWhile (· == ' ')).length
    let cs := if fill == .blank then cs.drop blanks else cs
    let (n, cs) ← number? 3 (fill == .zero) cs
    return ({ r with yearDay := some n }, cs)
  | .hour =>
    let (n, cs) ← number? 2 false cs
    if 24 ≤ n then none else return ({ r with hour := n }, cs)
  | .hour12 fill =>
    let (n, cs) ← number? 2 (fill == .zero) cs
    if 12 < n then none else return ({ r with hour := n }, cs)
  | .minute fill =>
    let (n, cs) ← number? 2 (fill == .zero) cs
    if 60 ≤ n then none else return ({ r with minute := n }, cs)
  | .second fill =>
    let (n, cs) ← number? 2 (fill == .zero) cs
    let r := { r with second := n }
    if 60 ≤ n then none
    else match next, cs with
      | some (.fraction _ _ _), cs => return (r, cs)
      | _, c :: d :: rest =>
        if isSeparator c && d.isDigit then
          let digits := (d :: rest).takeWhile Char.isDigit
          return ({ r with nano := ← nano? digits }, (d :: rest).drop digits.length)
        else return (r, cs)
      | _, cs => return (r, cs)
  | .half upper =>
    let named := String.ofList (cs.take 2)
    if named == (if upper then "PM" else "pm") then
      return ({ r with afternoon := some true }, cs.drop 2)
    else if named == (if upper then "AM" else "am") then
      let afternoon := if r.afternoon == some true then some true else some false
      return ({ r with afternoon }, cs.drop 2)
    else none
  | .zone =>
    if "UTC".toList.isPrefixOf cs then return ({ r with universal := true }, cs.drop 3)
    else
      let n ← zoneLength? cs
      return ({ r with zone := cs.take n }, cs.drop n)
  | .offset letter style =>
    if letter && cs.head? == some 'Z' then return ({ r with universal := true }, cs.drop 1)
    else
      let (n, cs) ← offset? style cs
      return ({ r with offset := some n }, cs)
  | .fraction _ count trimmed =>
    if trimmed then
      match cs with
      | c :: d :: rest =>
        if isSeparator c && d.isDigit then
          let digits := (d :: rest).takeWhile Char.isDigit
          return ({ r with nano := ← nano? digits }, (d :: rest).drop digits.length)
        else return (r, cs)
      | cs => return (r, cs)
    else
      match cs with
      | c :: rest =>
        if !isSeparator c || rest.length < count then none
        else return ({ r with nano := ← nano? (rest.take count) }, rest.drop count)
      | [] => none

/-- The month and the day that a day of a year falls on. -/
def dateOf? (year : Int) (n : Nat) : Option (Nat × Nat) :=
  if n < 1 || (if Time.isLeap year then 366 else 365) < n then none
  else
    let (_, month, day) := Time.ofDays (Time.days year 1 1 + (n - 1 : Nat))
    some (month, day)

/-- The month and the day of what is read. -/
def date? (r : TimeReading) : Option (Nat × Nat) :=
  match r.yearDay with
  | none => some (r.month.getD 1, r.day.getD 1)
  | some n => do
    let (month, day) ← dateOf? r.year n
    if r.month.any (· != month) || r.day.any (· != day) then none else some (month, day)

/-- The point in time of what is read. A zone that is only named lies at universal time, or so many
hours from it as are added to the name of the zone at zero degrees. -/
def time? (r : TimeReading) : Option Time := do
  let hour :=
    if r.afternoon == some true && r.hour < 12 then r.hour + 12
    else if r.afternoon == some false && r.hour == 12 then 0
    else r.hour
  let (month, day) ← r.date?
  if day < 1 || Time.daysIn r.year month < day then none
  else
    let t : Time := ⟨r.year, month, day, hour, r.minute, r.second, r.nano, none⟩
    let offset := if r.offset == some (-1) then none else r.offset
    if r.universal then some t
    else if offset.isSome then some { t with offset }
    else if r.zone.isEmpty then some t
    else
      let hours := if String.ofList (r.zone.take 3) == "GMT" then (signed? (r.zone.drop 3)).getD 0 else 0
      some (Time.ofNanoseconds (some (hours * 3600)) t.nanoseconds)

end TimeReading

/-- Whether a part is a literal. -/
def TimePart.isLiteral : TimePart → Bool
  | literal _ => true
  | _ => false

/-- Reads a point in time from what is left of a text. -/
def readFrom? (r : TimeReading) : List TimePart → List Char → Option Time
  | [], cs => if cs.isEmpty then r.time? else none
  | part :: parts, cs => do
    let (r, cs) ← r.read? part (parts.find? fun p => !p.isLiteral) cs
    readFrom? r parts cs

/-- Reads a point in time. -/
def readParts? (parts : List TimePart) (cs : List Char) : Option Time :=
  readFrom? {} parts cs

/-- A way to write points in time. -/
inductive TimeFormat where
  /-- The date, the time of day and the distance from universal time, with a fraction of a second or
  without one. -/
  | standard (fraction : Bool)
  | layout (parts : List TimePart)
  /-- The number of units since the beginning of 1970, of which `perSecond` make a second. -/
  | number (perSecond : Nat)
  deriving DecidableEq, Repr

namespace TimeFormat

/-- The layouts that have a name. -/
def namedLayouts : List (String × String) :=
  [("ANSIC", "Mon Jan _2 15:04:05 2006"), ("UnixDate", "Mon Jan _2 15:04:05 MST 2006"),
   ("RubyDate", "Mon Jan 02 15:04:05 -0700 2006"), ("RFC822", "02 Jan 06 15:04 MST"),
   ("RFC822Z", "02 Jan 06 15:04 -0700"), ("RFC850", "Monday, 02-Jan-06 15:04:05 MST"),
   ("RFC1123", "Mon, 02 Jan 2006 15:04:05 MST"), ("RFC1123Z", "Mon, 02 Jan 2006 15:04:05 -0700"),
   ("Kitchen", "3:04PM"), ("Stamp", "Jan _2 15:04:05"), ("StampMilli", "Jan _2 15:04:05.000"),
   ("StampMicro", "Jan _2 15:04:05.000000"), ("StampNano", "Jan _2 15:04:05.000000000"),
   ("DateTime", "2006-01-02 15:04:05"), ("DateOnly", "2006-01-02"), ("TimeOnly", "15:04:05")]

/-- The way that a name stands for. What is no single word is a layout itself, where `isWordChar` tells
the characters of a word. -/
def ofName? (isWordChar : Char → Bool) (name : String) : Option TimeFormat :=
  match name with
  | "RFC3339" => some (standard false)
  | "RFC3339Nano" => some (standard true)
  | "unix" => some (number 1)
  | "unixmilli" => some (number 1000)
  | "unixmicro" => some (number 1000000)
  | "unixnano" => some (number 1000000000)
  | name =>
    match namedLayouts.find? (·.1 == name) with
    | some (_, text) => some (.layout (TimePart.ofLayout text))
    | none =>
      if name.toList.head?.all Char.isAlpha && name.toList.all isWordChar then none
      else some (.layout (TimePart.ofLayout name))

/-- Whether points in time are written as numbers. -/
def isNumeric : TimeFormat → Bool
  | number _ => true
  | _ => false

/-- A number of units of which `perSecond` make a second, for a number of billionths of a second. -/
def numberText (perSecond : Nat) (nanoseconds : Int) : String :=
  let scale := 1000000000 / perSecond
  let n := nanoseconds.natAbs
  let fraction := Time.fractionText (n % scale * perSecond)
  (if nanoseconds < 0 then "-" else "") ++ Time.digits 1 (n / scale) ++ fraction

/-- The text of a point in time. -/
def write (f : TimeFormat) (t : Time) : String :=
  match f with
  | standard true => t.text
  | standard false => t.textWithoutFraction ++ Time.offsetText t.offset
  | layout parts => writeParts parts t
  | number perSecond => numberText perSecond t.nanoseconds

/-- The billionths of a second of a number of units of which `perSecond` make a second. Digits beyond
the billionths are dropped. -/
def readNumber? (perSecond : Nat) (cs : List Char) : Option Int :=
  let (negative, cs) := match cs with
    | '-' :: rest => (true, rest)
    | cs => (false, cs)
  let (whole, rest) := cs.span Char.isDigit
  let scale := 1000000000 / perSecond
  let fraction := match rest with
    | [] => some 0
    | '.' :: digits =>
      if digits.isEmpty || !digits.all Char.isDigit then none
      else some (TimeReading.digitsValue ((digits ++ List.replicate 9 '0').take 9) / perSecond)
    | _ => none
  let units := TimeReading.digitsValue whole
  let proper := !whole.isEmpty && (whole.length == 1 || whole.head? != some '0')
  match fraction with
  | some fraction =>
    let total : Int := units * scale + fraction
    if !proper || Nat.pow 2 63 ≤ units / perSecond || negative && total == 0 then none
    else some (if negative then -total else total)
  | none => none

/-- Reads a point in time. -/
def read? (f : TimeFormat) (cs : List Char) : Option Time :=
  match f with
  | standard _ => Time.parse cs
  | layout parts => readParts? parts cs
  | number perSecond => (readNumber? perSecond cs).map (Time.ofNanoseconds none)

end TimeFormat

end Bindery
