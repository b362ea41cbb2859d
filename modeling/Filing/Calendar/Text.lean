import Filing.Calendar
import Filing.Double.Text

/-!
# Writing instants

An instant is written as date and time with the letter Z, and with as many digits of its fraction as it
needs of none, three, six and nine. A year outside of 0 to 9999 has a sign. The second of a leap second
is 60.
-/

namespace Filing.Instant

def padded (width n : Nat) : List Char :=
  let ds := Double.digitChars n
  List.replicate (width - ds.length) '0' ++ ds

def yearChars (year : Int) : List Char :=
  if 0 ≤ year && year ≤ 9999 then padded 4 year.toNat
  else (if year < 0 then '-' else '+') :: padded 4 year.natAbs

/-- The fraction with its point, three digits at a time. -/
def fractionChars (nano : Nat) : List Char :=
  if nano = 0 then []
  else if nano % 1000000 = 0 then '.' :: padded 3 (nano / 1000000)
  else if nano % 1000 = 0 then '.' :: padded 6 (nano / 1000)
  else '.' :: padded 9 nano

def text (t : Instant) : String :=
  let (year, month, day) := Calendar.civil t.day
  let leap := 1000000000 ≤ t.nano
  .ofList <| yearChars year ++ '-' :: padded 2 month ++ '-' :: padded 2 day
    ++ 'T' :: padded 2 (t.second / 3600) ++ ':' :: padded 2 (t.second / 60 % 60)
    ++ ':' :: padded 2 (t.second % 60 + if leap then 1 else 0)
    ++ fractionChars (if leap then t.nano - 1000000000 else t.nano) ++ ['Z']

end Filing.Instant
