import Filing.Calendar
import Filing.Double.Reading
import Filing.Text.Blank

/-!
# Reading dates and instants

Three notations. `Instant.ofStamp?` is the strict one of a date, a time and an offset, all parts at full
width. `Calendar.ofDateText?` is a date alone: the year has up to four digits, or any number of them
after a sign, months and days have one or two, and blanks may come before each number.
`Instant.ofText?` is the tolerant one: parts as in a date alone, blanks around them, and `UTC` for the
offset.
-/

namespace Filing

namespace Calendar

/-- The number of at most `most` leading digits, of which there have to be `least`, and the rest. -/
def number? (least most : Nat) (cs : List Char) : Option (Nat × List Char) :=
  let ds := (cs.take most).takeWhile Double.isDigit
  if ds.length < least then none else some (Double.natOfDigits ds, cs.drop ds.length)

def after? (c : Char) : List Char → Option (List Char)
  | d :: rest => if d = c then some rest else none
  | [] => none

def skipBlanks (cs : List Char) : List Char := cs.dropWhile Text.isBlank

/-- A year after blanks: up to four digits, or any number of digits after a sign. -/
def year? (cs : List Char) : Option (Int × List Char) :=
  match skipBlanks cs with
  | '-' :: rest => (number? 1 rest.length rest).map fun (n, rest) => (-(n : Int), rest)
  | '+' :: rest => (number? 1 rest.length rest).map fun (n, rest) => (n, rest)
  | rest => (number? 1 4 rest).map fun (n, rest) => (n, rest)

def pair? (cs : List Char) : Option (Nat × List Char) := number? 1 2 (skipBlanks cs)

/-- A fraction of a second in nanoseconds, if there is one; digits after the ninth are dropped. -/
def fraction? : List Char → Option (Nat × List Char)
  | '.' :: rest =>
    let (ds, rest) := Double.spanDigits rest
    if ds.isEmpty then none
    else
      let ds := ds.take 9
      some (Double.natOfDigits ds * Nat.pow 10 (9 - ds.length), rest)
  | rest => some (0, rest)

/-- An offset from universal time in seconds: the letter Z, or a sign, hours and minutes with what
`separator` takes away between them. -/
def offset? (separator : List Char → Option (List Char)) : List Char → Option (Int × List Char)
  | [] => none
  | c :: rest =>
    if c = 'Z' || c = 'z' then some (0, rest)
    else do
      let negative ← if c = '+' then some false else if c = '-' || c = '−' then some true else none
      let (hours, rest) ← number? 2 2 rest
      let rest ← separator rest
      let (minutes, rest) ← number? 2 2 rest
      if 60 ≤ minutes then none
      else
        let seconds : Int := hours * 3600 + minutes * 60
        return (if negative then -seconds else seconds, rest)

def offsetFits (seconds : Int) : Bool := -86400 < seconds && seconds < 86400

def ofDateText? (cs : List Char) : Option Int := do
  let (year, cs) ← year? cs
  let cs ← after? '-' cs
  let (month, cs) ← pair? cs
  let cs ← after? '-' cs
  let (day, cs) ← pair? cs
  if cs.isEmpty then date? year month day else none

def afterMark? : List Char → Option (List Char)
  | c :: rest => if c = 'T' || c = 't' || c = ' ' then some rest else none
  | [] => none

end Calendar

namespace Instant

open Calendar

def ofStamp? (cs : List Char) : Option Instant := do
  let (year, cs) ← number? 4 4 cs
  let cs ← after? '-' cs
  let (month, cs) ← number? 2 2 cs
  let cs ← after? '-' cs
  let (day, cs) ← number? 2 2 cs
  let cs ← afterMark? cs
  let (hour, cs) ← number? 2 2 cs
  let cs ← after? ':' cs
  let (minute, cs) ← number? 2 2 cs
  let cs ← after? ':' cs
  let (second, cs) ← number? 2 2 cs
  let (nano, cs) ← fraction? cs
  let (ahead, cs) ← offset? (after? ':') cs
  if cs.isEmpty && offsetFits ahead then
    ofLocal? (← date? year month day) hour minute second nano ahead
  else none

def ofText? (cs : List Char) : Option Instant := do
  let (year, cs) ← year? cs
  let cs ← after? '-' (skipBlanks cs)
  let (month, cs) ← pair? cs
  let cs ← after? '-' (skipBlanks cs)
  let (day, cs) ← pair? cs
  let cs ← afterMark? cs
  let (hour, cs) ← pair? cs
  let cs ← after? ':' (skipBlanks cs)
  let (minute, cs) ← pair? cs
  let cs ← after? ':' (skipBlanks cs)
  let (second, cs) ← pair? cs
  let (nano, cs) ← fraction? cs
  let cs := skipBlanks cs
  let (ahead, cs) ←
    if (cs.take 3).map Char.toUpper = ['U', 'T', 'C'] then some (0, cs.drop 3)
    else offset? (fun cs => some (cs.dropWhile fun c => c = ':' || Text.isBlank c)) cs
  if (skipBlanks cs).isEmpty && offsetFits ahead then
    ofLocal? (← date? year month day) hour minute second nano ahead
  else none

/-- Reads what a date condition compares: the strict notation, or a date alone as its midnight; blanks
at the ends do not matter. -/
def ofDateValue? (value : String) : Option Instant :=
  let cs := Text.trim value.toList
  match ofStamp? cs with
  | some instant => some instant
  | none => (ofDateText? cs).map midnight

end Instant

end Filing
