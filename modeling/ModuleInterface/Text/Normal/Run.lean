import ModuleInterface.Bytes.Hex

/-!
# Runs of characters

A property that gives characters a list of codes is written as runs: the first
and the last character of each, and the codes. Between the two stands `-` where
the codes belong to every character of the run, and `+` where the last code
advances with the character. All numbers are hexadecimal; semicolons stand between
runs, and blanks between words.
-/

namespace ModuleInterface
namespace Normal

/-- A run of characters with the codes that they have. -/
structure Run where
  first : Nat
  last : Nat
  /-- Whether the last code advances with the character. -/
  advances : Bool
  codes : List Nat
  deriving DecidableEq, Repr

namespace Run

/-- The number that hexadecimal digits spell. -/
def number? (digits : String) : Option Nat :=
  digits.toList.foldlM (fun number digit => (Hex.digitValue? digit).map (16 * number + ·)) 0

/-- The run that is written as a list of words. -/
def ofWords? : List String → Option Run
  | [] => none
  | word :: words => do
      let codes ← words.mapM number?
      match word.splitOn "+", word.splitOn "-" with
      | [first, last], _ => return ⟨← number? first, ← number? last, true, codes⟩
      | _, [first, last] => return ⟨← number? first, ← number? last, false, codes⟩
      | _, _ => return ⟨← number? word, ← number? word, false, codes⟩

/-- Whether a character stands between words. -/
def isBlank (character : Char) : Bool :=
  character = ' ' || character = '\n'

/-- The words of a run. -/
def words (run : String) : List String :=
  ((run.toList.splitBy fun left right => isBlank left == isBlank right).filter fun word =>
    !word.all isBlank).map String.ofList

/-- The runs that are written in a table. -/
def parseAll (table : String) : List Run :=
  (table.splitOn ";").filterMap fun run => ofWords? (words run)

/-- Codes of which the last one is advanced. -/
def advance (distance : Nat) : List Nat → List Nat
  | [] => []
  | [code] => [code + distance]
  | code :: rest => code :: advance distance rest

/-- The codes that a run gives to a character, if it holds the character. -/
def codesOf? (code : Nat) (run : Run) : Option (List Nat) :=
  if run.first ≤ code ∧ code ≤ run.last then
    some (if run.advances then advance (code - run.first) run.codes else run.codes)
  else none

/-- The character of a run that has the two given codes, if there is one. -/
def composite? (first second : Nat) (run : Run) : Option Nat :=
  match run.codes with
  | [left, right] =>
      if first = left ∧ right ≤ second ∧ second - right ≤ run.last - run.first then
        some (run.first + (second - right))
      else none
  | _ => none

end Run
end Normal
end ModuleInterface
