namespace FeedDesk

/-!
The limits of whole numbers that must fit a machine word of 64 bits.
-/

/-- Two to the 64: whole numbers without a sign lie below it. -/
def wordLimit : Nat := 18446744073709551616

/-- Two to the 63: whole numbers with a sign lie below it and not below its negation. -/
def signedLimit : Nat := 9223372036854775808

end FeedDesk
