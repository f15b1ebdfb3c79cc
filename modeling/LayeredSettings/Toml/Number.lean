import LayeredSettings.Toml.Document
import LayeredSettings.Toml.Lexical

/-!
# Reading TOML numbers and dates

Integers in four notations, floating-point numbers, and dates and times, which are checked against
the calendar and then forgotten.
-/

namespace LayeredSettings.Toml

/-- Reads the rest of a run of digits in which an underscore may stand between two digits. -/
def moreDigits? (isDigit : Char → Bool) : Scan (List Char)
  | [] => some ([], [])
  | ['_'] => none
  | '_' :: c :: rest => if isDigit c then prepend c (moreDigits? isDigit rest) else none
  | c :: rest =>
    if isDigit c then prepend c (moreDigits? isDigit rest) else some ([], c :: rest)

/-- Reads a run of digits, without the underscores between them. -/
def digits? (isDigit : Char → Bool) : Scan (List Char)
  | [] => none
  | c :: rest => if isDigit c then prepend c (moreDigits? isDigit rest) else none

/-- The value of a run of digits in a base. -/
def valueOfDigits (base : Nat) (cs : List Char) : Nat :=
  cs.foldl (fun n c => base * n + (Json.hexValue? c).getD 0) 0

/-- An integer, if it has at most 64 bits. -/
def integerOf? (i : Int) : Option Value :=
  (int64? i).map .integer

/-- Reads the digits of an integer in a base other than ten. -/
def inBase? (base : Nat) (cs : List Char) : Option (Value × List Char) := do
  let (digits, rest) ← digits? (fun c => (Json.hexValue? c).any (· < base)) cs
  return (← integerOf? (valueOfDigits base digits), rest)

/-- Reads the whole part of a decimal number: no zero stands before another digit. -/
def wholePart? : Scan (List Char)
  | '0' :: rest => some (['0'], rest)
  | cs => digits? Char.isDigit cs

/-- A floating-point number, unless it is too large. -/
def floatOf? (d : Decimal) : Option Value :=
  match Binary64.ofDecimal d with
  | .infinite false => none
  | x => some (.float x)

/-- Reads a power of ten, if one stands here. -/
def power? : Scan (Option Int)
  | c :: rest =>
    if c = 'e' ∨ c = 'E' then do
      let (negative, rest) := Decimal.splitSign rest
      let (digits, rest) ← digits? Char.isDigit rest
      let size : Int := Decimal.ofDigits digits
      return (some (if negative then -size else size), rest)
    else some (none, c :: rest)
  | [] => some (none, [])

/-- Reads a number: an integer, or a floating-point number if a fraction or a power of ten follows.
-/
def number? (cs : List Char) : Option (Value × List Char) :=
  match cs with
  | '0' :: 'x' :: rest => inBase? 16 rest
  | '0' :: 'o' :: rest => inBase? 8 rest
  | '0' :: 'b' :: rest => inBase? 2 rest
  | cs =>
    match Decimal.splitSign cs with
    | (negative, 'i' :: 'n' :: 'f' :: rest) => some (.float (.infinite negative), rest)
    | (_, 'n' :: 'a' :: 'n' :: rest) => some (.float .nan, rest)
    | (negative, rest) => do
      let (whole, rest) ← wholePart? rest
      match rest with
      | '.' :: rest => do
        let (fraction, rest) ← digits? Char.isDigit rest
        let (power, rest) ← power? rest
        let exponent := power.getD 0 - fraction.length
        return (← floatOf? ⟨negative, Decimal.ofDigits (whole ++ fraction), exponent⟩, rest)
      | rest => do
        let value := Decimal.ofDigits whole
        match ← power? rest with
        | (some power, rest) => return (← floatOf? ⟨negative, value, power⟩, rest)
        | (none, rest) => return (← integerOf? (if negative then -(value : Int) else value), rest)

/-- Reads a number of exactly `count` digits. -/
def fixedDigits? (count : Nat) : Scan Nat := fun cs =>
  let digits := cs.take count
  if digits.length = count && digits.all Char.isDigit then
    some (Decimal.ofDigits digits, cs.drop count)
  else none

/-- Reads one character. -/
def char? (c : Char) : List Char → Option (List Char)
  | d :: rest => if d = c then some rest else none
  | [] => none

/-- The number of days in a month. -/
def daysInMonth (year month : Nat) : Nat :=
  if month = 2 then if (year % 4 = 0 ∧ year % 100 ≠ 0) ∨ year % 400 = 0 then 29 else 28
  else if month ∈ [4, 6, 9, 11] then 30
  else 31

/-- The text after a date of the calendar. -/
def date? (cs : List Char) : Option (List Char) := do
  let (year, rest) ← fixedDigits? 4 cs
  let (month, rest) ← fixedDigits? 2 (← char? '-' rest)
  let (day, rest) ← fixedDigits? 2 (← char? '-' rest)
  guard (1 ≤ month ∧ month ≤ 12 ∧ 1 ≤ day ∧ day ≤ daysInMonth year month)
  return rest

/-- The text after hours and minutes. -/
def clock? (cs : List Char) : Option (List Char) := do
  let (hour, rest) ← fixedDigits? 2 cs
  let (minute, rest) ← fixedDigits? 2 (← char? ':' rest)
  guard (hour ≤ 23 ∧ minute ≤ 59)
  return rest

/-- The text after a time of day; a second more than 59 may stand for a leap second. -/
def time? (cs : List Char) : Option (List Char) := do
  let (second, rest) ← fixedDigits? 2 (← char? ':' (← clock? cs))
  guard (second ≤ 60)
  match rest with
  | '.' :: c :: rest =>
    if c.isDigit then some (rest.dropWhile Char.isDigit) else some ('.' :: c :: rest)
  | rest => some rest

/-- The text after the distance to universal time, if one stands here. -/
def offset? (cs : List Char) : Option (List Char) :=
  match cs with
  | 'Z' :: rest | 'z' :: rest => some rest
  | '+' :: rest | '-' :: rest => clock? rest
  | cs => some cs

/-- The text starts like a date: four digits and a dash. -/
def startsDate (cs : List Char) : Bool :=
  ((fixedDigits? 4 cs).bind fun (_, rest) => char? '-' rest).isSome

/-- The text starts like a time: two digits and a colon. -/
def startsTime (cs : List Char) : Bool :=
  ((fixedDigits? 2 cs).bind fun (_, rest) => char? ':' rest).isSome

/-- Reads a date, a time of day, or a date with a time. -/
def datetime? (cs : List Char) : Option (Value × List Char) :=
  if startsDate cs then do
    let rest ← date? cs
    match rest with
    | c :: after =>
      if (c = 'T' ∨ c = 't' ∨ c = ' ') ∧ startsTime after then do
        return (.datetime, ← offset? (← time? after))
      else return (.datetime, rest)
    | [] => return (.datetime, [])
  else do return (.datetime, ← time? cs)

/-- Reads a scalar. -/
def scalar? : Scan Value
  | 't' :: 'r' :: 'u' :: 'e' :: rest => some (.boolean true, rest)
  | 'f' :: 'a' :: 'l' :: 's' :: 'e' :: rest => some (.boolean false, rest)
  | cs =>
    if cs.head? = some '"' ∨ cs.head? = some '\'' then
      (string? cs).map fun (s, rest) => (.string (String.ofList s), rest)
    else if startsDate cs ∨ startsTime cs then datetime? cs
    else number? cs

end LayeredSettings.Toml
