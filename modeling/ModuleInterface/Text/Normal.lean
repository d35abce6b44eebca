import ModuleInterface.Text.Normal.CombiningClass
import ModuleInterface.Text.Normal.Composition
import ModuleInterface.Text.Normal.Decomposition

/-!
# Normal form of identifiers

Two identifiers are the same name when their compatibility compositions (Unicode
normalization form KC) agree. A text is decomposed as far as possible, its marks
are put in the order of their combining classes, and what can be composed is
composed again. The tables list the characters that can stand in identifiers.
-/

namespace ModuleInterface
namespace Normal

/-! ## Syllables of Hangul

A syllable is composed of a leading consonant, a vowel and perhaps a trailing
consonant. The syllables are numbered in the order of these parts. -/

/-- The code of the first syllable. -/
abbrev firstSyllable : Nat := 0xAC00

/-- The code of the first leading consonant. -/
abbrev firstLead : Nat := 0x1100

/-- The code of the first vowel. -/
abbrev firstVowel : Nat := 0x1161

/-- The code before that of the first trailing consonant. -/
abbrev noTrail : Nat := 0x11A7

/-- The number of leading consonants. -/
abbrev leadCount : Nat := 19

/-- The number of vowels. -/
abbrev vowelCount : Nat := 21

/-- The number of trailing consonants, none included. -/
abbrev trailCount : Nat := 28

/-- The parts of a syllable. -/
def syllableParts? (code : Nat) : Option (List Nat) :=
  let number := code - firstSyllable
  if firstSyllable ≤ code ∧ number < leadCount * vowelCount * trailCount then
    let lead := firstLead + number / (vowelCount * trailCount)
    let vowel := firstVowel + number / trailCount % vowelCount
    let trail := number % trailCount
    some (if trail = 0 then [lead, vowel] else [lead, vowel, noTrail + trail])
  else none

/-- The syllable of two parts: of a lead and a vowel, or of a syllable without a
trailing consonant and one. -/
def syllable? (first second : Nat) : Option Nat :=
  let lead := first - firstLead
  let vowel := second - firstVowel
  let number := first - firstSyllable
  let trail := second - noTrail
  if firstLead ≤ first ∧ lead < leadCount ∧ firstVowel ≤ second ∧ vowel < vowelCount then
    some (firstSyllable + (lead * vowelCount + vowel) * trailCount)
  else if firstSyllable ≤ first ∧ number < leadCount * vowelCount * trailCount ∧
      number % trailCount = 0 ∧ noTrail < second ∧ trail < trailCount then
    some (first + trail)
  else none

/-! ## Decomposition, order and composition -/

/-- The greatest code that is in normal form whatever stands beside it. -/
abbrev lastPlain : Nat := 0x7F

/-- What a character is decomposed into. -/
def decompose (code : Nat) : List Nat :=
  if code ≤ lastPlain then [code]
  else ((syllableParts? code).or (listedDecomposition? code)).getD [code]

/-- A character beside its combining class. -/
structure Ranked where
  code : Nat
  rank : Nat
  deriving DecidableEq, Repr

/-- A character with its combining class. -/
def Ranked.ofCode (code : Nat) : Ranked :=
  ⟨code, combiningClass code⟩

/-- Put a character in front of others, after the marks that go before it. -/
def place (ranked : Ranked) : List Ranked → List Ranked
  | [] => [ranked]
  | next :: rest =>
      if 0 < next.rank ∧ next.rank < ranked.rank then next :: place ranked rest
      else ranked :: next :: rest

/-- Characters with their marks in order. -/
def inOrder (characters : List Ranked) : List Ranked :=
  characters.foldr place []

/-- The composite of two characters, if there is one. -/
def composite? (first second : Nat) : Option Nat :=
  (syllable? first second).or (listedComposite? first second)

/-- Whether a character is kept from the start of its group by one of the marks
between them. -/
def isBlocked (marks : List Ranked) (ranked : Ranked) : Bool :=
  marks.any fun mark => decide (ranked.rank ≤ mark.rank)

/-- The start of a group and the marks that follow it, the latest of which comes
first. -/
def group (start : Nat) (marks : List Ranked) : List Nat :=
  start :: (marks.map Ranked.code).reverse

/-- Compose the characters that follow the start of a group and some marks that
were not composed with it, the latest of which comes first. -/
def composeAfter (start : Nat) (marks : List Ranked) : List Ranked → List Nat
  | [] => group start marks
  | next :: rest =>
      match if isBlocked marks next then none else composite? start next.code with
      | some joined => composeAfter joined marks rest
      | none =>
          if next.rank = 0 then group start marks ++ composeAfter next.code [] rest
          else composeAfter start (next :: marks) rest

/-- Compose characters. Marks in front of the first group stay as they are. -/
def compose : List Ranked → List Nat
  | [] => []
  | next :: rest =>
      if next.rank = 0 then composeAfter next.code [] rest else next.code :: compose rest

/-- The normal form of some characters. -/
def form (codes : List Nat) : List Nat :=
  compose (inOrder ((codes.flatMap decompose).map Ranked.ofCode))

/-- A text whose characters all are in normal form whatever stands beside them. -/
def isPlain (text : String) : Bool :=
  text.toList.all fun character => decide (character.toNat ≤ lastPlain)

/-- The normal form of a text. -/
def ofText (text : String) : String :=
  if isPlain text then text
  else String.ofList ((form (text.toList.map Char.toNat)).map Char.ofNat)

end Normal
end ModuleInterface
