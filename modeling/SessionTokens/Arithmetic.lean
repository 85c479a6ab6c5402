set_option autoImplicit false

/- Powers and sums of numbers are those of the core library, whatever else is imported: a definition
that is evaluated here and reasoned about elsewhere is one definition. -/
namespace SessionTokens

attribute [scoped instance (2000)] instPowNat Zero.ofOfNat0

-- Above the default that stands for literal exponents in algebra.
attribute [default_instance (20000)] instPowNat

end SessionTokens
