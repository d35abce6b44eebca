import ModuleInterface.Value.Render

/-!
# Reports

The reader's own errors form a small hierarchy. A report carries a family, a
message, and where it applies the partition and the numbers that disagree; its
text starts with the stable code of the family.
-/

namespace ModuleInterface

/-- Families of the reader's own errors. -/
inductive ErrorFamily
  /-- Any error of the reader. -/
  | reader
  /-- The bytes are not a valid container. -/
  | corruptFormat
  | invalidSignature
  | sizeMismatch
  | checksumMismatch
  /-- Container and reader disagree about a layout. -/
  | schemaMismatch
  | unsupportedSort
  | missingPartition
  | unknownModule
  | noModuleResolver
  deriving DecidableEq, Repr

/-- What a caller did wrong, when an error is raised. -/
inductive ErrorCategory
  /-- The input is bad. -/
  | badInput
  /-- Two parties disagree about a contract. -/
  | brokenContract
  /-- What was looked up is absent. -/
  | failedLookup
  deriving DecidableEq, Repr

namespace ErrorFamily

/-- Every family. -/
def all : List ErrorFamily := [
  .reader, .corruptFormat, .invalidSignature, .sizeMismatch, .checksumMismatch,
  .schemaMismatch, .unsupportedSort, .missingPartition, .unknownModule,
  .noModuleResolver]

/-- The stable code of a family. -/
def code : ErrorFamily → String
  | .reader => "ifc-error"
  | .corruptFormat => "corrupt-format"
  | .invalidSignature => "invalid-signature"
  | .sizeMismatch => "size-mismatch"
  | .checksumMismatch => "checksum-mismatch"
  | .schemaMismatch => "schema-mismatch"
  | .unsupportedSort => "unsupported-sort"
  | .missingPartition => "missing-partition"
  | .unknownModule => "unknown-module"
  | .noModuleResolver => "no-module-resolver"

/-- The families that a family belongs to, itself first. -/
def ancestors : ErrorFamily → List ErrorFamily
  | .reader => [.reader]
  | .corruptFormat => [.corruptFormat, .reader]
  | .invalidSignature => [.invalidSignature, .corruptFormat, .reader]
  | .sizeMismatch => [.sizeMismatch, .corruptFormat, .reader]
  | .checksumMismatch => [.checksumMismatch, .corruptFormat, .reader]
  | .schemaMismatch => [.schemaMismatch, .reader]
  | .unsupportedSort => [.unsupportedSort, .schemaMismatch, .reader]
  | .missingPartition => [.missingPartition, .reader]
  | .unknownModule => [.unknownModule, .reader]
  | .noModuleResolver => [.noModuleResolver, .reader]

/-- The category of a family. -/
def category? : ErrorFamily → Option ErrorCategory
  | .reader => none
  | .corruptFormat | .invalidSignature | .sizeMismatch | .checksumMismatch =>
      some .badInput
  | .schemaMismatch | .unsupportedSort | .noModuleResolver => some .brokenContract
  | .missingPartition | .unknownModule => some .failedLookup

end ErrorFamily

/-- An error of the reader, ready to be shown. Null stands for what it lacks. -/
structure Report where
  family : ErrorFamily
  message : String
  partition : Value
  expected : Value
  got : Value
  deriving Repr

namespace Report

/-- The text of a report: code and message, then the partition, then the two
numbers when at least one of them is present. -/
def human (report : Report) : String :=
  let headline := s!"[{report.family.code}] {report.message}"
  let place := match report.partition with
    | .null => ""
    | partition => " partition=" ++ partition.display
  let numbers := match report.expected, report.got with
    | .null, .null => ""
    | expected, got => " expected=" ++ expected.display ++ " got=" ++ got.display
  headline ++ place ++ numbers

end Report
end ModuleInterface
