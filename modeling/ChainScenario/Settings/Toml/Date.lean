import ChainScenario.Settings.Toml.Reader

/-!
# TOML dates

A day, a time of day or both, and perhaps how far the time is from universal time. A setting cannot
be a date, so that a date counts as its text; in that text every date is written in the same way.
-/
namespace ChainScenario.Settings.Toml

/-- A day of the calendar. -/
structure Day where
  year : Nat
  month : Nat
  day : Nat
  deriving Repr, DecidableEq

/-- A time of day. -/
structure Clock where
  hour : Nat
  minute : Nat
  second : Nat
  nanosecond : Nat
  deriving Repr, DecidableEq

/-- How far a time is from universal time. -/
inductive Zone where
  | universal
  | shifted (hours : Int) (minutes : Nat)
  deriving Repr, DecidableEq

/-- A day, a time of day or both. -/
structure Date where
  day : Option Day
  clock : Option Clock
  zone : Option Zone
  deriving Repr, DecidableEq

namespace Date

/-- Reads from the front of a text. -/
abbrev Scan := StateT (List Char) Option

/-- The next character, which is a digit. -/
def digit : Scan Nat := fun text =>
  match text with
  | c :: text => if c.isDigit then some (c.toNat - 48, text) else none
  | [] => none

def twoDigits : Scan Nat := do
  return (← digit) * 10 + (← digit)

/-- Passes over a character, which must come next. -/
def passOver (expected : Char) : Scan Unit := fun text =>
  match text with
  | c :: text => if c == expected then some ((), text) else none
  | [] => none

/-- Passes over a character if it is one of those given. -/
def passOverAny (accepted : List Char) : Scan Bool := fun text =>
  match text with
  | c :: rest => some (if accepted.contains c then (true, rest) else (false, text))
  | [] => some (false, [])

/-- A day. All months count as having 31 days. -/
def scanDay : Scan Day := do
  let year := (← twoDigits) * 100 + (← twoDigits)
  passOver '-'
  let month ← twoDigits
  passOver '-'
  let day ← twoDigits
  if 1 ≤ month && month ≤ 12 && 1 ≤ day && day ≤ 31 then return ⟨year, month, day⟩ else failure

/-- How many digits of a fraction of a second count. -/
def precision : Nat := 9

/-- The nanoseconds of a fraction of a second; further digits are passed over. -/
def scanFraction : Scan Nat := fun text =>
  let digits := text.takeWhile Char.isDigit
  if digits.isEmpty then none
  else
    let counted := digits.take precision ++ List.replicate (precision - digits.length) '0'
    some (Decimal.ofDigits counted, text.drop digits.length)

/-- A time of day; midnight may also end a day. -/
def scanClock : Scan Clock := do
  let hour ← twoDigits
  passOver ':'
  let minute ← twoDigits
  passOver ':'
  let second ← twoDigits
  let nanosecond ← if ← passOverAny ['.'] then scanFraction else pure 0
  if hour ≤ 24 && minute ≤ 59 && second ≤ 59 then return ⟨hour, minute, second, nanosecond⟩
  else failure

/-- How far a time is from universal time, if that is said. -/
def scanZone : Scan (Option Zone) := do
  if (← get).isEmpty then return none
  if ← passOverAny ['Z', 'z'] then return some .universal
  let east ← passOverAny ['+']
  if !east then passOver '-'
  let hours ← twoDigits
  passOver ':'
  let minutes ← twoDigits
  return some (.shifted (if east then hours else -hours) minutes)

/-- The date that a text starts with. -/
def scan : Scan Date := do
  if (← get)[2]? == some ':' then return ⟨none, some (← scanClock), none⟩
  let day ← scanDay
  if ← passOverAny ['T', 't', ' '] then return ⟨some day, some (← scanClock), ← scanZone⟩
  else return ⟨some day, none, none⟩

def ofText? (text : List Char) : Option Date :=
  match scan.run text with
  | some (date, []) => some date
  | _ => none

def dayText (day : Day) : String :=
  "-".intercalate
    [Decimal.padded 4 day.year, Decimal.padded 2 day.month, Decimal.padded 2 day.day]

/-- Text of a time of day. Zeros at the end of its fraction are left out. -/
def clockText (clock : Clock) : String :=
  let whole := ":".intercalate ([clock.hour, clock.minute, clock.second].map (Decimal.padded 2))
  let fraction := (Decimal.padded precision clock.nanosecond).toList.reverse.dropWhile (· == '0')
  if fraction.isEmpty then whole else whole ++ "." ++ String.ofList fraction.reverse

/-- Text of the distance from universal time. Less than an hour has no sign of its own. -/
def zoneText : Zone → String
  | .universal => "Z"
  | .shifted hours minutes =>
    let sign := if hours < 0 then "-" else "+"
    sign ++ Decimal.padded 2 hours.natAbs ++ ":" ++ Decimal.padded 2 minutes

def text (date : Date) : String :=
  let clock := match date.clock with
    | none => ""
    | some clock => (if date.day.isSome then "T" else "") ++ clockText clock
  (date.day.map dayText).getD "" ++ clock ++ (date.zone.map zoneText).getD ""

end Date

/-- Whether a word looks like part of a date: it has a `T`, or a hyphen that is neither its first
character nor part of an exponent. -/
def isDateLike (word : List Char) : Bool :=
  let negativeExponent := word.zip word.tail |>.any fun (mark, sign) =>
    (mark == 'e' || mark == 'E') && sign == '-'
  word.contains 'T' || word.contains 't' || (word.tail.contains '-' && !negativeExponent)

def dateWord (offset : Nat) : Reader (List Char) := do
  match ← next with
  | ⟨_, .word text⟩ => return text
  | _ => throw ⟨.badDate, offset, []⟩

/-- A sign and the word behind it, if the sign comes next. -/
def dateWordBehind (offset : Nat) (sign : Token) (c : Char) : Reader (List Char) := do
  if ← eat sign then return c :: (← dateWord offset) else return []

/-- The word one space behind a day, which is the hour. -/
def hourBehindSpace : Reader (List Char) := fun lexemes =>
  match lexemes with
  | ⟨_, .blank [' ']⟩ :: ⟨_, .word hour⟩ :: rest => .ok (' ' :: hour, rest)
  | _ => .ok ([], lexemes)

def minutesText (offset : Nat) : Reader (List Char) := do
  let minutes ← dateWord offset
  expect .colon
  let seconds ← dateWord offset
  let fraction ← dateWordBehind offset .period '.'
  let hours ← dateWordBehind offset .plus '+'
  return minutes ++ ':' :: seconds ++ fraction ++ hours ++ (← dateWordBehind offset .colon ':')

/-- The text of a date that starts with a word; `colon` tells whether a colon behind it was passed
over. -/
def dateText (offset : Nat) (word : List Char) (colon : Bool) : Reader (List Char) := do
  let start := (if colon then word ++ [':'] else word) ++ (← hourBehindSpace)
  if colon then return start ++ (← minutesText offset)
  else if ← eat .colon then return start ++ ':' :: (← minutesText offset)
  else return start

end ChainScenario.Settings.Toml
