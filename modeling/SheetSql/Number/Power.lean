namespace SheetSql

/-! Powers of the two bases that numbers are written in. -/

def pow2 (n : Nat) : Nat := Nat.pow 2 n

def pow10 (n : Nat) : Nat := Nat.pow 10 n

end SheetSql
