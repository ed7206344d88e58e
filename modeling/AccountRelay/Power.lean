/-! # Powers

A power of natural numbers is the core library's wherever it is written in this library, also where
a more general notion of power is in scope. So the `256 ^ width` that bounds a number of `width`
bytes is one and the same term in every definition and in every statement about it.
-/

namespace AccountRelay

attribute [scoped instance (high)] instPowNat instNatPowNat

-- The exponent of a power of numerals, such as `2 ^ 256`, has no type until a default is chosen.
attribute [default_instance 20000] instPowNat

end AccountRelay
