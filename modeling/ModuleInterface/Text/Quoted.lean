import ModuleInterface.Bytes.Hex
import ModuleInterface.Text.Printable
import ModuleInterface.Text.Symbol

/-!
# Quoted text

Names are shown between single quotes, or between double quotes when they hold
a single quote and no double quote. The backslash, the quote in use and every
character that does not print are escaped, unpaired surrogates by their code.
-/

namespace ModuleInterface
namespace Quoted

/-- The last `width` hexadecimal digits of a number. -/
def hexDigits : Nat → Nat → List Char
  | 0, _ => []
  | width + 1, value => hexDigits width (value / 16) ++ [Hex.digit (value % 16)]

/-- The quote that encloses a text. -/
def quoteFor (characters : List Char) : Char :=
  if '\'' ∈ characters ∧ '"' ∉ characters then '"' else '\''

/-- What shows a code: as few digits as it needs of two, four and eight. -/
def escapeCode (code : Nat) : List Char :=
  if code ≤ 0xFF then '\\' :: 'x' :: hexDigits 2 code
  else if code ≤ 0xFFFF then '\\' :: 'u' :: hexDigits 4 code
  else '\\' :: 'U' :: hexDigits 8 code

/-- A character as it stands between quotes of the given sort. -/
def escape (quote character : Char) : List Char :=
  if character = quote ∨ character = '\\' then ['\\', character]
  else if character = '\t' then ['\\', 't']
  else if character = '\n' then ['\\', 'n']
  else if character = '\r' then ['\\', 'r']
  else if Printable.isPrintable character then [character]
  else escapeCode character.toNat

/-- A symbol as it stands between quotes of the given sort. -/
def escapeSymbol (quote : Char) : Symbol → List Char
  | .character found => escape quote found
  | .half number => escapeCode (Symbol.halfCode number)

/-- A text between quotes. -/
def render (text : String) : String :=
  let quote := quoteFor text.toList
  String.ofList (quote :: (Symbol.ofText text).flatMap (escapeSymbol quote) ++ [quote])

/-- The number of characters of a quoted text that an excerpt keeps. -/
def excerptLength : Nat := 200

/-- The start of a text between quotes, the opening quote included. -/
def excerpt (text : String) : String :=
  String.ofList ((render text).toList.take excerptLength)

end Quoted
end ModuleInterface
