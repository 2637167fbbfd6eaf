namespace SheetSql.Text

/-! Texts put together from parts. -/

def joined (separator : String) : List String → String
  | [] => ""
  | [part] => part
  | part :: next :: parts => part ++ separator ++ joined separator (next :: parts)

@[simp] theorem joined_nil (separator : String) : joined separator [] = "" := rfl

@[simp] theorem joined_singleton (separator part : String) :
    joined separator [part] = part := rfl

@[simp] theorem joined_cons_cons (separator part next : String) (parts : List String) :
    joined separator (part :: next :: parts) =
      part ++ separator ++ joined separator (next :: parts) := rfl

end SheetSql.Text
