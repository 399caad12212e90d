import Std.Time.Date

/-!
Moments, and the text of one: a date and a time with the offset from universal time.
-/
namespace AppLauncher

/-- A moment since the start of 1970 in universal time. -/
structure Moment where
  seconds : Nat
  nanoseconds : Nat

namespace Moment

/-- A number in at least so many digits. -/
def padded (width n : Nat) : String :=
  let digits := Nat.toDigits 10 n
  String.ofList (List.replicate (width - digits.length) '0' ++ digits)

def dateText (moment : Moment) : String :=
  let date := Std.Time.PlainDate.ofEpochDay ⟨(moment.seconds / 86400 : Nat)⟩
  padded 4 date.year.toInt.toNat ++ "-" ++ padded 2 date.month.val.toNat ++ "-" ++
    padded 2 date.day.val.toNat

def clockText (moment : Moment) : String :=
  padded 2 (moment.seconds / 3600 % 24) ++ ":" ++ padded 2 (moment.seconds / 60 % 60) ++ ":" ++
    padded 2 (moment.seconds % 60)

/-- The part of a second, in no digits or in as few groups of three as show it whole. -/
def fractionText (nanoseconds : Nat) : String :=
  if nanoseconds = 0 then ""
  else if nanoseconds % 1000000 = 0 then "." ++ padded 3 (nanoseconds / 1000000)
  else if nanoseconds % 1000 = 0 then "." ++ padded 6 (nanoseconds / 1000)
  else "." ++ padded 9 nanoseconds

def text (moment : Moment) : String :=
  moment.dateText ++ "T" ++ moment.clockText ++ fractionText moment.nanoseconds ++ "+00:00"

end Moment

end AppLauncher
