/-!
# Containers

Ciphertexts come in two containers, told apart by the first three bytes.
-/

namespace Clearance

/-- The containers of ciphertexts. -/
inductive Codec where
  | nano
  | standard
  deriving DecidableEq, Repr

namespace Codec

/-- Both containers. -/
def all : List Codec := [.nano, .standard]

/-- The bytes with which a compact container starts. -/
def nanoMagic : List UInt8 := [0x4C, 0x31, 0x4C]

/-- The name of a container. -/
def name : Codec → String
  | .nano => "nanotdf"
  | .standard => "tdf3"

/-- The container of a ciphertext. -/
def classify (ciphertext : List UInt8) : Codec :=
  if nanoMagic.isPrefixOf ciphertext then .nano else .standard

end Codec
end Clearance
