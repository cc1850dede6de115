import Bindery.Toml.Item

/-!
# Days and times in a TOML document

A moment is a day, a time, or a day and a time with or without an offset. Months, days, hours,
minutes, seconds and offsets are checked against the calendar and the clock; a second may be the
sixtieth. Fractions of a second are cut after nine places.
-/
namespace Bindery.Toml

/-- The value of a number of decimal digits, and nothing else. -/
def digitValue? (cs : List Char) : Option Nat :=
  if cs ≠ [] ∧ cs.all Char.isDigit then some (cs.foldl (fun n c => n * 10 + (c.toNat - 48)) 0)
  else none

/-- A number of exactly so many digits within bounds, and what follows it. -/
def field? (width low high : Nat) (cs : List Char) : Option (Nat × List Char) := do
  let front := cs.take width
  if front.length ≠ width then none
  else
    let n ← digitValue? front
    if low ≤ n ∧ n ≤ high then some (n, cs.drop width) else none

def after? (c : Char) : List Char → Option (List Char)
  | d :: rest => if c = d then some rest else none
  | [] => none

def monthDays (year month : Nat) : Nat :=
  if month = 2 then
    if year % 4 = 0 ∧ (year % 100 ≠ 0 ∨ year % 400 = 0) then 29 else 28
  else if month = 4 ∨ month = 6 ∨ month = 9 ∨ month = 11 then 30
  else 31

/-- A day at the front of a text. -/
def day? (cs : List Char) : Option (Day × List Char) := do
  let (year, cs) ← field? 4 0 9999 cs
  let (month, cs) ← field? 2 1 12 (← after? '-' cs)
  let (day, cs) ← field? 2 1 (monthDays year month) (← after? '-' cs)
  return (⟨year, month, day⟩, cs)

def nanoseconds (digits : List Char) : Nat :=
  ((digits.take 9).foldl (fun n c => n * 10 + (c.toNat - 48)) 0) * Nat.pow 10 (9 - digits.length)

/-- A time at the front of a text. -/
def clock? (cs : List Char) : Option (Clock × List Char) := do
  let (hour, cs) ← field? 2 0 23 cs
  let (minute, cs) ← field? 2 0 59 (← after? ':' cs)
  let (second, cs) ← field? 2 0 60 (← after? ':' cs)
  match cs with
  | '.' :: rest =>
    let digits := rest.takeWhile Char.isDigit
    if digits.isEmpty then none
    else some (⟨hour, minute, second, nanoseconds digits⟩, rest.dropWhile Char.isDigit)
  | cs => some (⟨hour, minute, second, 0⟩, cs)

/-- A whole text that is an offset. -/
def offset? : List Char → Option Offset
  | ['Z'] | ['z'] => some .zulu
  | sign :: cs =>
    if sign = '+' ∨ sign = '-' then do
      let (hour, cs) ← field? 2 0 23 cs
      let (minute, cs) ← field? 2 0 59 (← after? ':' cs)
      let total : Int := hour * 60 + minute
      if cs.isEmpty then some (.minutes (if sign = '-' then -total else total)) else none
    else none
  | [] => none

/-- A whole text that is a time and perhaps an offset, on the given day. -/
def timed? (day : Day) (cs : List Char) : Option Moment := do
  let (clock, cs) ← clock? cs
  if cs.isEmpty then return { day, clock }
  else return { day, clock, offset := (← offset? cs) }

/-- A whole text that is a moment. -/
def moment? (cs : List Char) : Option Moment :=
  match day? cs with
  | some (day, []) => some { day }
  | some (day, c :: cs) => if c = 'T' ∨ c = 't' ∨ c = ' ' then timed? day cs else none
  | none =>
    match clock? cs with
    | some (clock, []) => some { clock }
    | _ => none

def padded (width n : Nat) : List Char :=
  let ds := Nat.toDigits 10 n
  List.replicate (width - ds.length) '0' ++ ds

def Day.chars (d : Day) : List Char :=
  padded 4 d.year ++ '-' :: padded 2 d.month ++ '-' :: padded 2 d.day

def Clock.chars (c : Clock) : List Char :=
  let fraction :=
    if c.nanosecond = 0 then []
    else '.' :: ((padded 9 c.nanosecond).reverse.dropWhile (· == '0')).reverse
  padded 2 c.hour ++ ':' :: padded 2 c.minute ++ ':' :: padded 2 c.second ++ fraction

def Offset.chars : Offset → List Char
  | zulu => ['Z']
  | minutes distance =>
    let sign := if distance < 0 then '-' else '+'
    sign :: padded 2 (distance.natAbs / 60) ++ ':' :: padded 2 (distance.natAbs % 60)

def Moment.text (m : Moment) : String :=
  let day := (m.day.map Day.chars).getD []
  let clock := (m.clock.map Clock.chars).getD []
  let mark := if m.day.isSome && m.clock.isSome then ['T'] else []
  String.ofList (day ++ mark ++ clock ++ (m.offset.map Offset.chars).getD [])

end Bindery.Toml
