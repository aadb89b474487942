/-!
# Powers of two and ten

Numbers are kept in binary and written in decimal, so that powers of these two
bases turn up everywhere, of naturals and of integers.  They are the powers of
the core library, whatever else is imported.
-/

namespace CalcShell.Number

attribute [scoped instance (2000)] instPowNat

end CalcShell.Number
