import ModuleInterface.Container.State
import ModuleInterface.Digest.Sha256

/-!
# Integrity and lifetime

The header records the digest of everything that follows it. Comparing the two
is up to the caller. What is done with the digest does not depend on which one it
is; the checksum of a container is its SHA-256 digest. Closing a container
releases its bytes; what is kept outside the bytes stays.
-/

namespace ModuleInterface
namespace Query

/-- The digest of the content of a container. -/
def computeDigest (digest : List UInt8 → List UInt8) : Query (List UInt8) := do
  let bytes ← ofExcept (← get).blob.access
  return digest (bytes.tail Dimensions.checksumStart)

/-- Whether the recorded digest is that of the content. -/
def verifyDigest (digest : List UInt8 → List UInt8) : Query Bool := do
  let computed ← computeDigest digest
  let agrees := computed == (← get).header.checksum
  record (.checksumCompared agrees)
  return agrees

/-- Fail unless the recorded digest is that of the content. -/
def requireDigest (digest : List UInt8 → List UInt8) (path : String) : Query Unit := do
  if ← verifyDigest digest then return ()
  else throw (.checksumDisagrees path (← get).header.checksum (← computeDigest digest))

/-- The checksum of the content of a container. -/
def computeChecksum : Query (List UInt8) :=
  computeDigest Sha256.digest

/-- Whether the recorded checksum is that of the content. -/
def verifyChecksum : Query Bool :=
  verifyDigest Sha256.digest

/-- Release the bytes of a container. -/
def close : Query Unit :=
  modify fun container => { container with blob := container.blob.release }

/-- Forget the table of contents, but nothing that was located or gathered. -/
def clearContents : Query Unit :=
  modify fun container => { container with contents := [] }

end Query
end ModuleInterface
