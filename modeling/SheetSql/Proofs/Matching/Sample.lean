import SheetSql.Proofs.Matching.Meaning

namespace SheetSql

/-! Texts that regular expressions read. -/

def CharRange.least : CharRange → Char
  | .one c => c
  | .span first _ => first

namespace Regex

open Matcher

end Regex

end SheetSql
