/-!
# Symbols of a text

A text may hold one half of a surrogate pair without the other. Such a half is
no character and cannot be stored. Where a text is held as characters, a half is
a mark followed by the private-use character that stands for it, and the marks
that stand by themselves in front of such a character are doubled. Every text is
held in one way, and all characters hold some text (`ofText_toText`, `toText_ofText`).
-/

namespace ModuleInterface

/-- What a text consists of. -/
inductive Symbol
  | character (character : Char)
  /-- One half of a surrogate pair, counted from the first. -/
  | half (number : Fin 0x800)
  deriving DecidableEq, Repr

namespace Symbol

/-- The character that announces a half. -/
def mark : Char := Char.ofNat 0x10FFFF

/-- The code of the first half. -/
abbrev firstHalf : Nat := 0xD800

/-- The code of the character that stands for the first half. -/
abbrev firstStandIn : Nat := 0x10D800

/-- The code of a half. -/
def halfCode (number : Fin 0x800) : Nat :=
  firstHalf + number

/-- The half of a code. -/
def ofCode? (code : Nat) : Option (Fin 0x800) :=
  if bounds : firstHalf ≤ code ∧ code < firstHalf + 0x800 then
    some ⟨code - firstHalf, by omega⟩
  else none

/-- The character that stands for a half. -/
def standIn (number : Fin 0x800) : Char :=
  Char.ofNat (firstStandIn + number)

/-- The half that a character may stand for. -/
def standsFor? (character : Char) : Option (Fin 0x800) :=
  if bounds : firstStandIn ≤ character.toNat ∧ character.toNat < firstStandIn + 0x800 then
    some ⟨character.toNat - firstStandIn, by omega⟩
  else none

/-- The symbols that characters hold after a number of marks. -/
def readAfter : Nat → List Char → List Symbol
  | marks, [] => List.replicate marks (.character mark)
  | marks, first :: rest =>
      if first = mark then readAfter (marks + 1) rest
      else
        match standsFor? first with
        | none =>
            List.replicate marks (.character mark) ++ .character first :: readAfter 0 rest
        | some number =>
            List.replicate (marks / 2) (.character mark) ++
              (if marks % 2 = 0 then .character first else .half number) ::
                readAfter 0 rest

/-- The characters that hold symbols after a number of marks. -/
def writeAfter : Nat → List Symbol → List Char
  | marks, [] => List.replicate marks mark
  | marks, .half number :: rest =>
      List.replicate (2 * marks + 1) mark ++ standIn number :: writeAfter 0 rest
  | marks, .character first :: rest =>
      if first = mark then writeAfter (marks + 1) rest
      else if (standsFor? first).isSome then
        List.replicate (2 * marks) mark ++ first :: writeAfter 0 rest
      else List.replicate marks mark ++ first :: writeAfter 0 rest

/-- The symbols of a text. -/
def ofText (text : String) : List Symbol :=
  readAfter 0 text.toList

/-- The text of some symbols. -/
def toText (symbols : List Symbol) : String :=
  String.ofList (writeAfter 0 symbols)

/-- The text of some characters. -/
def textOf (characters : List Char) : String :=
  toText (characters.map .character)

/-- The character that a symbol is, if it is one. -/
def character? : Symbol → Option Char
  | .character found => some found
  | .half _ => none

/-- Whether a text holds no half, so that it can be stored. -/
def isEncodable (text : String) : Bool :=
  (ofText text).all fun symbol => symbol.character?.isSome

theorem toNat_standIn (number : Fin 0x800) :
    (standIn number).toNat = firstStandIn + number := by
  have bound := number.isLt
  have valid : (firstStandIn + number.val).isValidChar :=
    Or.inr ⟨by simp only [firstStandIn]; omega, by simp only [firstStandIn]; omega⟩
  rw [standIn, Char.ofNat, dif_pos valid]
  rfl

theorem toNat_mark : mark.toNat = 0x10FFFF := rfl

theorem standIn_ne_mark (number : Fin 0x800) : standIn number ≠ mark := by
  intro equal
  have bound := number.isLt
  have codes := congrArg Char.toNat equal
  rw [toNat_standIn, toNat_mark] at codes
  simp only [firstStandIn] at codes
  omega

/-- The half that a stand-in stands for. -/
@[simp] theorem standsFor?_standIn (number : Fin 0x800) :
    standsFor? (standIn number) = some number := by
  have bound := number.isLt
  simp only [standsFor?, toNat_standIn]
  rw [dif_pos (by omega)]
  simp

/-- The character that stands for a half is told from every other. -/
theorem eq_standIn_of_standsFor? {character : Char} {number : Fin 0x800}
    (found : standsFor? character = some number) : character = standIn number := by
  unfold standsFor? at found
  split at found
  · rename_i bounds
    obtain rfl := (Option.some.inj found).symm
    apply Char.ext
    apply UInt32.toNat_inj.mp
    have codes := toNat_standIn ⟨character.toNat - firstStandIn, by omega⟩
    change character.toNat = (standIn _).toNat
    rw [codes]
    change character.toNat = firstStandIn + (character.toNat - firstStandIn)
    omega
  · simp at found

theorem readAfter_replicate (marks count : Nat) (rest : List Char) :
    readAfter marks (List.replicate count mark ++ rest) = readAfter (marks + count) rest := by
  induction count generalizing marks with
  | zero => simp
  | succ count inductionHypothesis =>
      rw [List.replicate_succ, List.cons_append, readAfter, if_pos rfl, inductionHypothesis]
      congr 1
      omega

theorem writeAfter_replicate (marks count : Nat) (rest : List Symbol) :
    writeAfter marks (List.replicate count (.character mark) ++ rest) =
      writeAfter (marks + count) rest := by
  induction count generalizing marks with
  | zero => simp
  | succ count inductionHypothesis =>
      rw [List.replicate_succ, List.cons_append, writeAfter, if_pos rfl, inductionHypothesis]
      congr 1
      omega

theorem readAfter_writeAfter (marks : Nat) (symbols : List Symbol) :
    readAfter 0 (writeAfter marks symbols) =
      List.replicate marks (.character mark) ++ symbols := by
  induction symbols generalizing marks with
  | nil =>
      have marksAlone := readAfter_replicate 0 marks []
      simpa [writeAfter, readAfter] using marksAlone
  | cons symbol rest inductionHypothesis =>
      cases symbol with
      | half number =>
          have odd : (0 + (2 * marks + 1)) % 2 ≠ 0 := by omega
          have halved : (0 + (2 * marks + 1)) / 2 = marks := by omega
          rw [writeAfter, readAfter_replicate, readAfter, if_neg (standIn_ne_mark number),
            standsFor?_standIn]
          simp only [odd, halved, if_false, inductionHypothesis]
          simp
      | character first =>
          rw [writeAfter]
          by_cases isMark : first = mark
          · rw [if_pos isMark, inductionHypothesis, isMark, List.replicate_succ',
              List.append_assoc]
            rfl
          · rw [if_neg isMark]
            cases found : standsFor? first with
            | none =>
                simp only [Option.isSome_none, Bool.false_eq_true, if_false]
                rw [readAfter_replicate, readAfter, if_neg isMark, found]
                simp [inductionHypothesis]
            | some number =>
                have even : (0 + 2 * marks) % 2 = 0 := by omega
                have halved : (0 + 2 * marks) / 2 = marks := by omega
                simp only [Option.isSome_some, if_true]
                rw [readAfter_replicate, readAfter, if_neg isMark, found]
                simp only [even, halved, if_true, inductionHypothesis]
                simp

theorem writeAfter_readAfter (marks : Nat) (characters : List Char) :
    writeAfter 0 (readAfter marks characters) = List.replicate marks mark ++ characters := by
  induction characters generalizing marks with
  | nil =>
      have marksAlone := writeAfter_replicate 0 marks []
      simpa [writeAfter, readAfter] using marksAlone
  | cons first rest inductionHypothesis =>
      rw [readAfter]
      by_cases isMark : first = mark
      · rw [if_pos isMark, inductionHypothesis, isMark, List.replicate_succ', List.append_assoc]
        rfl
      · rw [if_neg isMark]
        cases found : standsFor? first with
        | none =>
            simp only
            rw [writeAfter_replicate, writeAfter, if_neg isMark, found]
            simp [inductionHypothesis]
        | some number =>
            simp only
            rw [writeAfter_replicate]
            by_cases even : marks % 2 = 0
            · have doubled : 2 * (marks / 2) = marks := by omega
              rw [if_pos even, writeAfter, if_neg isMark, found]
              simp [doubled, inductionHypothesis]
            · have doubled : 2 * (0 + marks / 2) + 1 = marks := by omega
              rw [if_neg even, writeAfter, doubled, eq_standIn_of_standsFor? found]
              simp [inductionHypothesis]

/-- Every text is read back as its symbols. -/
@[simp] theorem ofText_toText (symbols : List Symbol) : ofText (toText symbols) = symbols := by
  simp [ofText, toText, readAfter_writeAfter]

/-- All characters are the text of their symbols. -/
@[simp] theorem toText_ofText (text : String) : toText (ofText text) = text := by
  simp [ofText, toText, writeAfter_readAfter]

/-- Some characters are the symbols of their text. -/
theorem mapM_character? (characters : List Char) :
    (characters.map character).mapM character? = some characters := by
  induction characters with
  | nil => rfl
  | cons first rest inductionHypothesis =>
      simp [List.mapM_cons, inductionHypothesis, character?]

end Symbol
end ModuleInterface
