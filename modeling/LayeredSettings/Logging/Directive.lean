import LayeredSettings.Journal
import LayeredSettings.Number.Decimal
import LayeredSettings.Text.Basic

/-!
# Log directives

The text by which the environment fixes what is written: directives with commas between them. A
directive is a level, by name or number, or the name of a scope, which may have a level of its own
after an equals sign. All that the program reports lies in one scope.
-/

namespace LayeredSettings

/-- The filter that a number stands for: the higher, the more is written. -/
def LevelFilter.ofNumber? : Nat → Option LevelFilter
  | 0 => some none
  | 1 => some (some .error)
  | 2 => some (some .warn)
  | 3 => some (some .info)
  | 4 => some (some .debug)
  | 5 => some (some .trace)
  | _ => none

/-- The filter that a word stands for, in any case. -/
def LevelFilter.ofWord? (word : String) : Option LevelFilter :=
  match Text.lowerAscii word with
  | "off" => some none
  | "error" => some (some .error)
  | "warn" => some (some .warn)
  | "info" => some (some .info)
  | "debug" => some (some .debug)
  | "trace" => some (some .trace)
  | _ => none

/-- The number that digits stand for; a plus sign may stand before them. -/
def readCount? (cs : List Char) : Option Nat :=
  let digits := if cs.head? = some '+' then cs.tail else cs
  if digits ≠ [] ∧ digits.all Char.isDigit then some (Decimal.ofDigits digits) else none

/-- The filter that a text stands for, by number or by word. -/
def LevelFilter.read? (cs : List Char) : Option LevelFilter :=
  ((readCount? cs).bind ofNumber?).or (ofWord? (String.ofList cs))

/-- A directive: what is written of all that is reported in a scope, and in those whose names start
with its name. Every scope has the empty name at its start. -/
structure Directive where
  scope : List Char
  filter : LevelFilter
  deriving DecidableEq

namespace Directive

/-- The directive that a text says. A word that is no level names a scope, of which everything is
written. -/
def read? (cs : List Char) : Option Directive := do
  let first ← (Text.trimBlanks cs).head?
  guard (first ∈ ['-', ':', '_', '['] ∨ Text.isLetterOrNumber first)
  match cs.dropWhile (· ≠ '=') with
  | [] => return ((LevelFilter.read? cs).map (⟨[], ·⟩)).getD ⟨cs, some .trace⟩
  | [_] => return ⟨cs.dropLast, some .trace⟩
  | _ :: level => return ⟨cs.takeWhile (· ≠ '='), ← LevelFilter.read? level⟩

/-- The scope of the program. -/
def programScope : List Char := "prefect".toList

/-- The directive that decides: of those that cover the program, the one with the longest name, and
the last of several such. -/
def deciding? (directives : List Directive) : Option Directive :=
  (directives.filter (·.scope.isPrefixOf programScope)).foldl
    (fun best d => if best.all (·.scope.length ≤ d.scope.length) then some d else best) none

end Directive

/-- The filter that a text from the environment stands for, if all its directives can be read. A
text without directives asks for errors only. -/
def LevelFilter.ofText? (text : String) : Option LevelFilter := do
  let words := (text.toList.splitOn ',').filter (· ≠ [])
  let directives ← words.mapM Directive.read?
  if directives = [] then return some .error
  return (Directive.deciding? directives).bind (·.filter)

end LayeredSettings
