/-!
# Events

What a container and an environment report about their work, one event a line.
-/

namespace ModuleInterface

/-- Something that a container or an environment reports. -/
inductive Event
  /-- A later entry of the table of contents has a name that is taken. -/
  | duplicateEntry (name : String)
  /-- A container was opened. -/
  | opened (bytes partitions : Nat)
  /-- A partition was located and remembered. -/
  | located (name : String) (slot count : Nat)
  /-- The table of attributes was built. -/
  | attributesGathered (declarations : Nat)
  /-- A table of single traits was built. -/
  | traitsGathered (partition : String) (entries : Nat)
  /-- A module is looked up. -/
  | importing (name : String)
  /-- A checksum was compared. -/
  | checksumCompared (agrees : Bool)
  /-- A module name was given to another container. -/
  | moduleReplaced (name : String)
  deriving DecidableEq, Repr

namespace Event

/-- The line that reports an event. -/
def message : Event → String
  | .duplicateEntry name =>
      s!"ifc: duplicate TOC entry for partition '{name}' ignored"
  | .opened bytes partitions =>
      s!"ifc: loaded container of {bytes} bytes with {partitions} partitions"
  | .located name slot count =>
      s!"ifc: partition '{name}' cached in slot {slot} ({count} elements)"
  | .attributesGathered declarations =>
      s!"ifc: attribute trait map built for {declarations} declarations"
  | .traitsGathered partition entries =>
      s!"ifc: trait map '{partition}' built with {entries} entries"
  | .importing name => s!"ifc: resolving imported module '{name}'"
  | .checksumCompared agrees =>
      if agrees then "ifc: checksum ok" else "ifc: checksum mismatch"
  | .moduleReplaced name => s!"ifc: module '{name}' re-registered"

end Event
end ModuleInterface
