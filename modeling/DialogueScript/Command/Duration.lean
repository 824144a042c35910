/- Lengths of time for people to read, in the largest unit that gives at least one. -/
namespace DialogueScript.Command

def decimal (parts places : Nat) : String :=
  let whole := parts / Nat.pow 10 places
  let digits := Nat.toDigits 10 (parts % Nat.pow 10 places)
  let padded := List.replicate (places - digits.length) '0' ++ digits
  let fraction := (padded.reverse.dropWhile (· == '0')).reverse
  if fraction.isEmpty then toString whole
  else toString whole ++ "." ++ String.ofList fraction

def duration (nanoseconds : Nat) : String :=
  if nanoseconds < 1000 then toString nanoseconds ++ "ns"
  else if nanoseconds < 1000000 then decimal nanoseconds 3 ++ "µs"
  else if nanoseconds < 1000000000 then decimal nanoseconds 6 ++ "ms"
  else decimal nanoseconds 9 ++ "s"

end DialogueScript.Command
