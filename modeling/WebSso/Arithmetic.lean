/-!
# Arithmetic of natural numbers

Powers and sums of natural numbers are those of the core library.  A library of mathematics gives
them other instances, which agree; the ones here come first, so that a definition is read the same
way whatever else is imported beside it.
-/

set_option autoImplicit false

attribute [instance (1100), default_instance (10001)] instPowNat

attribute [instance (1100)] Zero.ofOfNat0
