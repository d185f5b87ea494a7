import AgentManifest.Toml.Fault

/-! Dates and times: a date, a time, or both, and then an offset. The written form has capital
letters between and behind the parts, seconds, and no trailing zeros in a fraction of a second. -/

namespace AgentManifest.Toml

structure Date where
  year : Nat
  month : Nat
  day : Nat
  deriving DecidableEq, Repr

structure Time where
  hour : Nat
  minute : Nat
  second : Nat
  nanosecond : Nat
  deriving DecidableEq, Repr

inductive Offset where
  | universal
  | minutes (value : Int)
  deriving DecidableEq, Repr

structure DateTime where
  date : Option Date
  time : Option Time
  offset : Option Offset
  deriving DecidableEq, Repr

namespace DateTime

inductive Mark where
  | digits (text : List Char)
  | dash
  | colon
  | dot
  | letterT
  | space
  | letterZ
  | plus
  | other
  deriving DecidableEq, Repr

/-- Splits a text into parts; digits that stand together are one part. -/
def marks : List Char → List Char → List Mark
  | [], [] => []
  | digits, [] => [.digits digits]
  | digits, c :: rest =>
    if c.isDigit then marks (digits ++ [c]) rest
    else
      let mark : Mark := match c with
        | '-' => .dash
        | ':' => .colon
        | '.' => .dot
        | 'T' => .letterT
        | 't' => .letterT
        | ' ' => .space
        | 'Z' => .letterZ
        | 'z' => .letterZ
        | '+' => .plus
        | _ => .other
      if digits.isEmpty then mark :: marks [] rest else .digits digits :: mark :: marks [] rest

def natOf (digits : List Char) : Nat := digits.foldl (fun n c => n * 10 + (c.toNat - 48)) 0

def refuse {α : Type} (part : DateTimePart) (expected : String) : Except Problem α :=
  .error (.dateTime part (some expected))

def takeDigits (part : DateTimePart) (expected : String) :
    List Mark → Except Problem (List Char × List Mark)
  | .digits text :: rest => .ok (text, rest)
  | _ => refuse part expected

def takeMark (mark : Mark) (part : DateTimePart) (expected : String) :
    List Mark → Except Problem (List Mark)
  | m :: rest => if m = mark then .ok rest else refuse part expected
  | [] => refuse part expected

def ofLength (count : Nat) (part : DateTimePart) (expected : String) (digits : List Char) :
    Except Problem Nat :=
  if digits.length = count then .ok (natOf digits) else refuse part expected

def isLeapYear (year : Nat) : Bool := year % 4 = 0 && (year % 100 ≠ 0 || year % 400 = 0)

def daysIn (year month : Nat) : Nat :=
  if month = 2 then (if isLeapYear year then 29 else 28)
  else if month = 4 || month = 6 || month = 9 || month = 11 then 30
  else 31

def readDate (year : List Char) (ms : List Mark) : Except Problem (Date × List Mark) := do
  let (month, ms) ← takeDigits .date "month" ms
  let ms ← takeMark .dash .date "`-` (MM-DD)" ms
  let (day, ms) ← takeDigits .date "day" ms
  let year ← ofLength 4 .date "a four-digit year (YYYY)" year
  let month ← ofLength 2 .date "a two-digit month (MM)" month
  let day ← ofLength 2 .date "a two-digit day (DD)" day
  if month < 1 || 12 < month then refuse .date "month between 01 and 12"
  else
    let days := daysIn year month
    if day < 1 || days < day then refuse .date s!"day between 01 and {days}"
    else return (⟨year, month, day⟩, ms)

/-- A fraction of a second in nanoseconds; further digits do not count. -/
def nanoseconds (digits : List Char) : Nat :=
  let first := digits.take 9
  natOf first * Nat.pow 10 (9 - first.length)

/-- Reads the seconds, if there are any, and their fraction. -/
def seconds : List Mark → Except Problem (Option (List Char × Nat) × List Mark)
  | .colon :: ms => do
    let (second, ms) ← takeDigits .time "second" ms
    match ms with
    | .dot :: ms =>
      let (fraction, ms) ← takeDigits .time "nanosecond" ms
      return (some (second, nanoseconds fraction), ms)
    | _ => return (some (second, 0), ms)
  | ms => .ok (none, ms)

def readTime (ms : List Mark) : Except Problem (Time × List Mark) := do
  let (hour, ms) ← takeDigits .time "hour" ms
  let ms ← takeMark .colon .time "`:` (HH:MM)" ms
  let (minute, ms) ← takeDigits .time "minute" ms
  let (second, ms) ← seconds ms
  let hour ← ofLength 2 .time "a two-digit hour (HH)" hour
  let minute ← ofLength 2 .time "a two-digit minute (MM)" minute
  let (second, nanosecond) ← match second with
    | some (second, nanosecond) => do
      pure (← ofLength 2 .time "a two-digit second (SS)" second, nanosecond)
    | none => pure (0, 0)
  if 23 < hour then refuse .time "hour between 00 and 23"
  else if 59 < minute then refuse .time "minute between 00 and 59"
  else if 60 < second then refuse .time "second between 00 and 60"
  else return (⟨hour, minute, second, nanosecond⟩, ms)

def numericOffset (negative : Bool) (ms : List Mark) : Except Problem (Offset × List Mark) := do
  let (hour, ms) ← takeDigits .offset "hour" ms
  let ms ← takeMark .colon .offset "`:` (HH:MM)" ms
  let (minute, ms) ← takeDigits .offset "minute" ms
  let hour ← ofLength 2 .offset "a two-digit hour (HH)" hour
  let minute ← ofLength 2 .offset "a two-digit minute (MM)" minute
  if 23 < hour then refuse .offset "hours between 00 and 23"
  else if 59 < minute then refuse .offset "minutes between 00 and 59"
  else
    let total : Int := hour * 60 + minute
    return (.minutes (if negative then -total else total), ms)

def readOffset (ms : List Mark) : Except Problem (Option Offset × List Mark) :=
  match ms with
  | [] => .ok (none, [])
  | .letterZ :: ms => .ok (some .universal, ms)
  | .plus :: ms => do
    let (o, ms) ← numericOffset false ms
    return (some o, ms)
  | .dash :: ms => do
    let (o, ms) ← numericOffset true ms
    return (some o, ms)
  | _ => refuse .offset "`Z`, +OFFSET, -OFFSET"

def atEnd (v : DateTime) : List Mark → Except Problem DateTime
  | [] => .ok v
  | _ => .error (.dateTime .whole none)

def ofChars (cs : List Char) : Except Problem DateTime := do
  let ms := marks [] cs
  let (first, rest) ← takeDigits .whole "year or hour" ms
  match rest with
  | .dash :: rest =>
    let (date, rest) ← readDate first rest
    match rest with
    | [] => return ⟨some date, none, none⟩
    | separator :: rest =>
      if separator = .letterT || separator = .space then
        let (time, rest) ← readTime rest
        let (offset, rest) ← readOffset rest
        atEnd ⟨some date, some time, offset⟩ rest
      else refuse .dateAndTime "`T` between date and time"
  | .colon :: _ =>
    let (time, rest) ← readTime ms
    atEnd ⟨none, some time, none⟩ rest
  | _ => refuse .whole "`-` (YYYY-MM) or `:` (HH:MM)"

def padded (width n : Nat) : List Char :=
  let digits := (toString n).toList
  List.replicate (width - digits.length) '0' ++ digits

def Date.chars (d : Date) : List Char :=
  padded 4 d.year ++ '-' :: padded 2 d.month ++ '-' :: padded 2 d.day

def withoutTrailingZeros (cs : List Char) : List Char :=
  (cs.reverse.dropWhile (· = '0')).reverse

def Time.chars (t : Time) : List Char :=
  padded 2 t.hour ++ ':' :: padded 2 t.minute ++ ':' :: padded 2 t.second
    ++ (if t.nanosecond = 0 then [] else '.' :: withoutTrailingZeros (padded 9 t.nanosecond))

def Offset.chars : Offset → List Char
  | .universal => ['Z']
  | .minutes m =>
    (if m < 0 then '-' else '+') :: padded 2 (m.natAbs / 60) ++ ':' :: padded 2 (m.natAbs % 60)

def text (v : DateTime) : String :=
  let date := v.date.elim [] Date.chars
  let separator := if v.date.isSome && v.time.isSome then ['T'] else []
  String.ofList (date ++ separator ++ v.time.elim [] Time.chars ++ v.offset.elim [] Offset.chars)

end DateTime
end AgentManifest.Toml
