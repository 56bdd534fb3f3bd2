/-
# Numbers

Powers, and the zero of the natural numbers, are those of the core library whatever else
is imported: their instances go before all others.  So do the instances for the numbers
of octets, of 16 bits and of 32 bits, whose literals need them to be more than zero.
-/

namespace MailGateway

@[default_instance 20000]
instance (priority := 20000) powNat : Pow Nat Nat := instPowNat

@[default_instance 20000]
instance (priority := 20000) powInt : Pow Int Nat := instPowNat

instance (priority := 20000) zeroNat : Zero Nat := Zero.ofOfNat0

instance (priority := 20000) neZero_octet : NeZero 256 := ⟨by decide⟩

instance (priority := 20000) neZero_bits16 : NeZero 65536 := ⟨by decide⟩

instance (priority := 20000) neZero_bits32 : NeZero 4294967296 := ⟨by decide⟩

end MailGateway
