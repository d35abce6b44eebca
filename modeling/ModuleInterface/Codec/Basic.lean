import ModuleInterface.Value

/-!
# Codecs

A codec says how one field of a record is stored, and a layout is a list of
codecs with padding between them. A layout is laid out flat as a list of words:
numbers of some width, floating-point numbers, and runs of bytes to skip. The
arity of a codec is the number of words that carry its value; padding has none
and describes no field.
-/

namespace ModuleInterface

/-- An item of a flat layout. -/
inductive Word
  /-- A number of `width` bytes. -/
  | unsigned (width : Nat)
  /-- A floating-point number of eight bytes. -/
  | float64
  /-- Bytes without meaning. -/
  | skip (length : Nat)
  deriving DecidableEq, Repr

namespace Word

/-- The number of bytes of a word. -/
def size : Word → Nat
  | .unsigned width => width
  | .float64 => 8
  | .skip length => length

@[simp] theorem size_unsigned (width : Nat) : (unsigned width).size = width := rfl

@[simp] theorem size_float64 : float64.size = 8 := rfl

@[simp] theorem size_skip (length : Nat) : (skip length).size = length := rfl

/-- The number of bytes of some words. -/
def totalSize : List Word → Nat
  | [] => 0
  | word :: words => word.size + totalSize words

@[simp] theorem totalSize_nil : totalSize [] = 0 := rfl

@[simp] theorem totalSize_cons (word : Word) (words : List Word) :
    totalSize (word :: words) = word.size + totalSize words := rfl

@[simp] theorem totalSize_append (left right : List Word) :
    totalSize (left ++ right) = totalSize left + totalSize right := by
  induction left with
  | nil => simp
  | cons word rest inductionHypothesis => simp [inductionHypothesis, Nat.add_assoc]

end Word

/-- How one field of a record is stored. -/
inductive Codec
  /-- A number of `width` bytes. -/
  | unsigned (width : Nat)
  /-- A floating-point number of eight bytes. -/
  | float64
  /-- A byte that is true unless it is zero. -/
  | boolean
  /-- Bytes without meaning; a negative length describes no layout. -/
  | padding (length : Int)
  /-- A number of `width` bytes that an enumeration may name. -/
  | enumerator (width : Nat) (enumeration : Enumeration)
  /-- A number of `width` bytes that an enumeration has to name. -/
  | member (width : Nat) (enumeration : Enumeration)
  /-- Flags of `width` bytes. -/
  | flags (width : Nat) (set : FlagSet)
  /-- An index of four bytes. -/
  | index (kind : IndexKind)
  /-- A range: first position and number of positions, four bytes each. -/
  | sequence
  /-- A place: line and column, four bytes each. -/
  | location
  /-- A module reference: two text offsets of four bytes each. -/
  | moduleReference
  /-- A record within a record. -/
  | nested (record : String) (fields : List String) (layout : List Codec)
  deriving Repr

namespace Codec

mutual

/-- The words that a codec stores. -/
def words : Codec → List Word
  | .unsigned width => [.unsigned width]
  | .float64 => [.float64]
  | .boolean => [.unsigned 1]
  | .padding length => [.skip length.toNat]
  | .enumerator width _ => [.unsigned width]
  | .member width _ => [.unsigned width]
  | .flags width _ => [.unsigned width]
  | .index _ => [.unsigned 4]
  | .sequence => [.unsigned 4, .unsigned 4]
  | .location => [.unsigned 4, .unsigned 4]
  | .moduleReference => [.unsigned 4, .unsigned 4]
  | .nested _ _ layout => layoutWords layout

/-- The words that a layout stores. -/
def layoutWords : List Codec → List Word
  | [] => []
  | codec :: rest => codec.words ++ layoutWords rest

end

mutual

/-- The number of words that carry the value of a codec. -/
def arity : Codec → Nat
  | .unsigned _ => 1
  | .float64 => 1
  | .boolean => 1
  | .padding _ => 0
  | .enumerator _ _ => 1
  | .member _ _ => 1
  | .flags _ _ => 1
  | .index _ => 1
  | .sequence => 2
  | .location => 2
  | .moduleReference => 2
  | .nested _ _ layout => layoutArity layout

/-- The number of words that carry the values of a layout. -/
def layoutArity : List Codec → Nat
  | [] => 0
  | codec :: rest => codec.arity + layoutArity rest

end

@[simp] theorem layoutWords_nil : layoutWords [] = [] := by
  simp [layoutWords]

@[simp] theorem layoutWords_cons (codec : Codec) (rest : List Codec) :
    layoutWords (codec :: rest) = codec.words ++ layoutWords rest := by
  simp [layoutWords]

@[simp] theorem layoutArity_nil : layoutArity [] = 0 := by
  simp [layoutArity]

@[simp] theorem layoutArity_cons (codec : Codec) (rest : List Codec) :
    layoutArity (codec :: rest) = codec.arity + layoutArity rest := by
  simp [layoutArity]

/-- The codecs of a layout that describe a field. -/
def fieldCodecs (layout : List Codec) : List Codec :=
  layout.filter fun codec => codec.arity != 0

/-- The number of bytes of a layout. -/
def layoutSize (layout : List Codec) : Nat :=
  Word.totalSize (layoutWords layout)

@[simp] theorem layoutSize_nil : layoutSize [] = 0 := by
  simp [layoutSize]

@[simp] theorem layoutSize_cons (codec : Codec) (rest : List Codec) :
    layoutSize (codec :: rest) = Word.totalSize codec.words + layoutSize rest := by
  simp [layoutSize]

mutual

/-- Whether no padding of a codec has a negative length. -/
def paddingOk : Codec → Bool
  | .padding length => decide (0 ≤ length)
  | .nested _ _ layout => layoutPaddingOk layout
  | _ => true

/-- Whether no padding of a layout has a negative length. -/
def layoutPaddingOk : List Codec → Bool
  | [] => true
  | codec :: rest => codec.paddingOk && layoutPaddingOk rest

end

end Codec
end ModuleInterface
