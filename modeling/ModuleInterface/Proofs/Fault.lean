import Mathlib
import ModuleInterface.Fault

/-!
# What is reported of a fault

A fault is reported as it is, unless its wording would show a number that has too many
digits (`Fault.kind_shown_of_outOfRange`). Only numbers that a caller gives can have so
many: those that are stored in four bytes have not. What a caller can tell of an outcome that
is a fault is the kind that is reported (`FailsAs`).
-/

namespace ModuleInterface

namespace Numeral

/-- A number of at most ten digits can be shown. -/
theorem isPrintable_of_lt_ten_pow
    {number : Nat}
    (bounded : number < 10 ^ 10) :
    isPrintable number := by
  rw [isPrintable, decide_eq_true_iff, Int.natAbs_natCast]
  exact bounded.trans_le (Nat.pow_le_pow_right (by decide) (by decide))

/-- What is stored in four bytes can be shown. -/
theorem isPrintable_of_lt
    {number : Nat}
    (bounded : number < 4294967296) :
    isPrintable number :=
  isPrintable_of_lt_ten_pow (bounded.trans (by decide))

/-- The first number that cannot be shown. -/
theorem isPrintable_limit : isPrintable ((10 : Int) ^ digitLimit) = false := by
  simp [isPrintable, Int.natAbs_pow]

/-- The first number below zero that cannot be shown. -/
theorem isPrintable_neg_limit : isPrintable (-(10 : Int) ^ digitLimit) = false := by
  rw [isPrintable, Int.natAbs_neg, ← isPrintable]
  exact isPrintable_limit

end Numeral

/-- What is out of range is reported as such, unless the wording would show a number that
has too many digits. -/
theorem Fault.kind_shown_of_outOfRange
    {fault : Fault}
    (own : fault.kind = .outOfRange) :
    fault.shown.kind =
      if fault.numbers.all Numeral.isPrintable then .outOfRange else .badValue := by
  rw [shown]
  split
  next => exact own
  next => rfl

/-- Where the wording shows one number, it decides what is reported. -/
theorem Fault.kind_shown_of_number
    {fault : Fault}
    {number : Int}
    (own : fault.kind = .outOfRange)
    (shows : fault.numbers = [number]) :
    fault.shown.kind =
      if Numeral.isPrintable number then .outOfRange else .badValue := by
  rw [kind_shown_of_outOfRange own, shows, List.all_cons, List.all_nil, Bool.and_true]

/-- The wording of a fault of the reader shows no number that a caller gives. -/
theorem Fault.numbers_eq_nil_of_reader
    {fault : Fault}
    {family : ErrorFamily}
    (own : fault.kind = .reader family) :
    fault.numbers = [] := by
  unfold numbers
  split
  case h_7 => rfl
  all_goals contradiction

/-- What the reader reports is reported as it is. -/
theorem Fault.kind_shown_of_reader
    {fault : Fault}
    {family : ErrorFamily}
    (own : fault.kind = .reader family) :
    fault.shown.kind = .reader family := by
  rw [shown, numbers_eq_nil_of_reader own]
  exact own

/-- An outcome is a fault that is reported as one of a kind. -/
def FailsAs {α : Type} (outcome : Except Fault α) (kind : FaultKind) : Prop :=
  ∃ fault, outcome = .error fault ∧ fault.shown.kind = kind

variable {α : Type} {outcome : Except Fault α} {kind : FaultKind}

/-- A fault is reported as one of one kind. -/
theorem FailsAs.iff_eq
    (fails : FailsAs outcome kind)
    (other : FaultKind) :
    FailsAs outcome other ↔ other = kind := by
  obtain ⟨fault, rfl, rfl⟩ := fails
  constructor
  · rintro ⟨_, ⟨⟩, reported⟩
    exact reported.symm
  · intro same
    exact ⟨fault, rfl, same.symm⟩

theorem FailsAs.ne_ok
    (fails : FailsAs outcome kind)
    (value : α) :
    outcome ≠ .ok value := by
  obtain ⟨fault, rfl, _⟩ := fails
  exact nofun

@[simp] theorem not_failsAs_ok
    (value : α)
    (kind : FaultKind) :
    ¬FailsAs (.ok value) kind :=
  nofun

/-- What is out of range for one number is reported as such if the number can be shown. -/
theorem failsAs_of_number
    {fault : Fault}
    {number : Int}
    (refused : outcome = .error fault)
    (own : fault.kind = .outOfRange)
    (shows : fault.numbers = [number]) :
    FailsAs outcome (if Numeral.isPrintable number then .outOfRange else .badValue) :=
  ⟨fault, refused, Fault.kind_shown_of_number own shows⟩

end ModuleInterface
