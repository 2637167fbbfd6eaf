import SheetSql.Text.Doubled
import SheetSql.Text.Hidden

namespace SheetSql.Text

/-!
Texts as messages show them: between double quotes, with what cannot be seen spelled out.
-/

def shownChar (c : Char) : List Char :=
  if c = Char.ofNat 0 then ['\\', '0']
  else if c = '\t' then ['\\', 't']
  else if c = '\n' then ['\\', 'n']
  else if c = '\r' then ['\\', 'r']
  else if c = '\\' ∨ c = doubleQuote then ['\\', c]
  else if isHidden c then
    ['\\', 'u', '\x7b'] ++ Nat.toDigits 16 c.toNat ++ ['\x7d']
  else [c]

def shown (s : String) : String :=
  String.ofList (doubleQuote :: s.toList.flatMap shownChar ++ [doubleQuote])

end SheetSql.Text
