import LayeredSettings.Toml.Number

/-!
# Dates written as texts

A date may be written as a text of its own: a date, a time of day, or a date with a time and its
distance to universal time. A text that is no date is told with the part that is wrong and with what
should stand there.
-/

namespace LayeredSettings.Toml

/-- A part of a date. -/
inductive DatePart where
  | whole
  | date
  | dateTime
  | time
  | offset
  deriving DecidableEq

/-- What a part is called. -/
def DatePart.label : DatePart → String
  | whole => "datetime"
  | date => "date"
  | dateTime => "date-time"
  | time => "time"
  | offset => "offset"

/-- Why a text is no date: the part that is wrong, and what should stand there. -/
structure DateFault where
  part : DatePart
  expected : Option String
  deriving DecidableEq

/-- Why a text is no date, in words. -/
def DateFault.message (fault : DateFault) : String :=
  "invalid " ++ fault.part.label ++ ((fault.expected.map (", expected " ++ ·)).getD "")

/-- A piece of the text of a date; what is none of the marks takes in all that follows it. -/
inductive DatePiece where
  | digits (cs : List Char)
  | dash
  | colon
  | dot
  | divider
  | blank
  | universal
  | plus
  | other
  deriving DecidableEq

/-- The mark that a character is, if it is one. -/
def DatePiece.ofMark? : Char → Option DatePiece
  | '-' => some dash
  | ':' => some colon
  | '.' => some dot
  | 'T' | 't' => some divider
  | ' ' => some blank
  | 'Z' | 'z' => some universal
  | '+' => some plus
  | _ => none

/-- The pieces of a text; digits side by side make one piece. -/
def datePieces : List Char → List DatePiece
  | [] => []
  | c :: rest =>
    if c.isDigit then
      match datePieces rest with
      | .digits cs :: pieces => .digits (c :: cs) :: pieces
      | pieces => .digits [c] :: pieces
    else
      match DatePiece.ofMark? c with
      | some mark => mark :: datePieces rest
      | none => [.other]

/-- Reading the pieces of a date one by one. -/
abbrev DateReading (α : Type) := StateT (List DatePiece) (Except DateFault) α

namespace DateReading

/-- Reads the next piece, which must be one of those chosen. -/
def piece {α : Type} (part : DatePart) (expected : String) (choose : Option DatePiece → Option α) :
    DateReading α := fun pieces =>
  match choose pieces.head? with
  | some x => .ok (x, pieces.tail)
  | none => .error ⟨part, some expected⟩

/-- Reads digits. -/
def digits (part : DatePart) (expected : String) : DateReading (List Char) :=
  piece part expected fun
    | some (.digits cs) => some cs
    | _ => none

/-- Reads a mark. -/
def mark (mark : DatePiece) (part : DatePart) (expected : String) : DateReading Unit :=
  piece part expected fun next => if next = some mark then some () else none

/-- Something that must hold. -/
def demand (holds : Prop) [Decidable holds] (part : DatePart) (expected : String) :
    DateReading Unit :=
  if holds then pure () else throw ⟨part, some expected⟩

/-- Reads the month and the day after a year. -/
def dayOfYear (year : List Char) : DateReading Unit := do
  let month ← digits .date "month"
  mark .dash .date "\x60-\x60 (MM-DD)"
  let day ← digits .date "day"
  demand (year.length = 4) .date "a four-digit year (YYYY)"
  demand (month.length = 2) .date "a two-digit month (MM)"
  demand (day.length = 2) .date "a two-digit day (DD)"
  let month := Decimal.ofDigits month
  let day := Decimal.ofDigits day
  demand (1 ≤ month ∧ month ≤ 12) .date "month between 01 and 12"
  let days := daysInMonth (Decimal.ofDigits year) month
  demand (1 ≤ day ∧ day ≤ days) .date ("day between 01 and " ++ toString days)

/-- Reads a time of day; a second more than 59 may stand for a leap second. -/
def timeOfDay : DateReading Unit := do
  let hour ← digits .time "hour"
  mark .colon .time "\x60:\x60 (HH:MM)"
  let minute ← digits .time "minute"
  mark .colon .time "\x60:\x60 (MM:SS)"
  let second ← digits .time "second"
  if (← get).head? = some .dot then
    modify List.tail
    discard <| digits .time "nanosecond"
  demand (hour.length = 2) .time "a two-digit hour (HH)"
  demand (minute.length = 2) .time "a two-digit minute (MM)"
  demand (second.length = 2) .time "a two-digit second (SS)"
  demand (Decimal.ofDigits hour ≤ 23) .time "hour between 00 and 23"
  demand (Decimal.ofDigits minute ≤ 59) .time "minute between 00 and 59"
  demand (Decimal.ofDigits second ≤ 60) .time "second between 00 and 60"

/-- Reads the distance to universal time, if one follows. -/
def offset : DateReading Unit := do
  if (← get) = [] then return
  let universal ← piece .offset "\x60Z\x60, +OFFSET, -OFFSET" fun
    | some .universal => some true
    | some .plus | some .dash => some false
    | _ => none
  if universal then return
  let hours ← digits .offset "hour"
  mark .colon .offset "\x60:\x60 (HH:MM)"
  let minutes ← digits .offset "minute"
  demand (hours.length = 2) .offset "a two-digit hour (HH)"
  demand (minutes.length = 2) .offset "a two-digit minute (MM)"
  demand (Decimal.ofDigits hours ≤ 23) .offset "hours between 00 and 23"
  demand (Decimal.ofDigits minutes ≤ 59) .offset "minutes between 00 and 59"

/-- Reads a whole date. -/
def whole : DateReading Unit := do
  let start ← get
  let first ← digits .whole "year or hour"
  let dated ← piece .whole "\x60-\x60 (YYYY-MM) or \x60:\x60 (HH:MM)" fun
    | some .dash => some true
    | some .colon => some false
    | _ => none
  if dated then
    dayOfYear first
    if (← get) = [] then return
    piece .dateTime "\x60T\x60 between date and time" fun
      | some .divider | some .blank => some ()
      | _ => none
    timeOfDay
    offset
  else
    set start
    timeOfDay
  unless (← get) = [] do throw ⟨.whole, none⟩

end DateReading

/-- Success if the text is a date. -/
def checkDate (s : String) : Except DateFault Unit :=
  (DateReading.whole (datePieces s.toList)).map (·.1)

end LayeredSettings.Toml
