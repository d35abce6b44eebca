import ModuleInterface.Value.Part

/-!
# Positions that designate no record

Sort 0 of two kinds needs no partition: the position of an identifier's name is
the text offset of the identifier, and the position of an immediate literal is
its value. What a name or a literal embeds can be asked of a value that need be
neither. A value embeds its position when its sort is 0. A list has no sort that
could be 0, and every other value without a sort is refused.
-/

namespace ModuleInterface

namespace TaggedIndex

/-- The position of an index whose sort stores its content in the position. -/
def embedded? (index : TaggedIndex) : Option Nat :=
  if index.sort = 0 ∧ index.fractionalSort? = none then some index.position else none

/-- The text of the identifier that a name is, if it is one. -/
def identifierText? (name : TaggedIndex) : Option PlainIndex :=
  name.embedded?.map fun (position : Nat) => .text position

end TaggedIndex

namespace Value

/-- The position of a value whose sort stores its content in the position. -/
def embedded? : Value → Except Fault (Option Value)
  | .tagged index => .ok (index.embedded?.map fun _ => positionOf index)
  | .list _ => .ok none
  | value => do
      if (← value.part "sort").same (.integer 0) then return some (← value.part "index")
      else return none

/-- The text of the identifier that a value is, if it is one. -/
def identifierText? (name : Value) : Except Fault (Option PlainIndex) := do
  match ← name.embedded? with
  | none => return none
  | some position => return some (.text (← position.toInteger))

/-- The value of the immediate literal that a value is, if it is one. -/
def immediateValue? (literal : Value) : Except Fault (Option Value) :=
  literal.embedded?

/-- A name embeds the text of the identifier that it is. -/
theorem identifierText?_tagged (name : TaggedIndex) :
    (Value.tagged name).identifierText? = .ok name.identifierText? := by
  simp only [identifierText?, embedded?, TaggedIndex.identifierText?, positionOf]
  cases embedded : name.embedded? with
  | none => rfl
  | some position =>
      have held : name.position = position := by
        unfold TaggedIndex.embedded? at embedded
        split at embedded
        · exact Option.some.inj embedded
        · cases embedded
      simp [bind, Except.bind, pure, Except.pure, held]

end Value
end ModuleInterface
