/-!
# Instances for numbers and texts

A library may bring powers of numbers and an order of lists of its own. Here they are those of
core, so that a definition means the same wherever it is used.
-/

attribute [instance (high)] instPowNat List.instLE List.decidableLE
attribute [default_instance (10001)] instPowNat
