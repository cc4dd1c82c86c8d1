import StyleGuide.Json

/-!
JSON text with two spaces of indentation for each level. Empty arrays and objects stay on one line.
-/

namespace StyleGuide.Json

/-- The lower-case hexadecimal digit of a number below sixteen. -/
def hexDigit (n : Nat) : Char := Nat.digitChar n

/-- A character inside a string literal: quotes, backslashes and control characters are escaped. -/
def escape (c : Char) : Text :=
  if c = '"' then ['\\', '"']
  else if c = '\\' then ['\\', '\\']
  else if c.toNat = 8 then ['\\', 'b']
  else if c.toNat = 9 then ['\\', 't']
  else if c.toNat = 10 then ['\\', 'n']
  else if c.toNat = 12 then ['\\', 'f']
  else if c.toNat = 13 then ['\\', 'r']
  else if c.toNat < 32 then
    ['\\', 'u', '0', '0', hexDigit (c.toNat / 16), hexDigit (c.toNat % 16)]
  else [c]

/-- A string literal. For a string that spells no text it is one that spells none either. -/
def quote : Option Text → Text
  | some t => '"' :: t.flatMap escape ++ ['"']
  | none => ['"', '\\', 'u', 'd', '8', '0', '0', '"']

/-- A line break and the indentation of the line after it. -/
def breakLine (depth : Nat) : Text := '\n' :: List.replicate (2 * depth) ' '

mutual

/-- The text of a value that starts on a line with the indentation of `depth`. -/
def print (depth : Nat) : Json → Text
  | null => ['n', 'u', 'l', 'l']
  | bool true => ['t', 'r', 'u', 'e']
  | bool false => ['f', 'a', 'l', 's', 'e']
  | number spelling => spelling
  | string t => quote t
  | array [] => ['[', ']']
  | array (item :: items) =>
    '[' :: breakLine (depth + 1) ++ print (depth + 1) item ++ printItems (depth + 1) items ++
      breakLine depth ++ [']']
  | object [] => ['{', '}']
  | object ((key, value) :: members) =>
    '{' :: breakLine (depth + 1) ++ quote key ++ [':', ' '] ++ print (depth + 1) value ++
      printMembers (depth + 1) members ++ breakLine depth ++ ['}']

/-- The items after the first, each on a line of its own. -/
def printItems (depth : Nat) : List Json → Text
  | [] => []
  | item :: items => ',' :: breakLine depth ++ print depth item ++ printItems depth items

/-- The members after the first, each on a line of its own. -/
def printMembers (depth : Nat) : List (Option Text × Json) → Text
  | [] => []
  | (key, value) :: members =>
    ',' :: breakLine depth ++ quote key ++ [':', ' '] ++ print depth value ++
      printMembers depth members

end

mutual

/-- Writes a value in front of a text that is there already, so that no part of it is copied for
each of the values around it. -/
def write (depth : Nat) : Json → Text → Text
  | array (item :: items), rest =>
    '[' :: (breakLine (depth + 1) ++ write (depth + 1) item
      (writeItems (depth + 1) items (breakLine depth ++ ']' :: rest)))
  | object ((key, value) :: members), rest =>
    '{' :: (breakLine (depth + 1) ++ (quote key ++ ':' :: ' ' :: write (depth + 1) value
      (writeMembers (depth + 1) members (breakLine depth ++ '}' :: rest))))
  | null, rest => print depth null ++ rest
  | bool b, rest => print depth (bool b) ++ rest
  | number spelling, rest => print depth (number spelling) ++ rest
  | string t, rest => print depth (string t) ++ rest
  | array [], rest => print depth (array []) ++ rest
  | object [], rest => print depth (object []) ++ rest

def writeItems (depth : Nat) : List Json → Text → Text
  | [], rest => rest
  | item :: items, rest =>
    ',' :: (breakLine depth ++ write depth item (writeItems depth items rest))

def writeMembers (depth : Nat) : List (Option Text × Json) → Text → Text
  | [], rest => rest
  | (key, value) :: members, rest =>
    ',' :: (breakLine depth ++ (quote key ++ ':' :: ' ' :: write depth value
      (writeMembers depth members rest)))

end

mutual

theorem write_eq_print_append (depth : Nat) (j : Json) (rest : Text) :
    write depth j rest = print depth j ++ rest := by
  match j with
  | null | bool _ | number _ | string _ | array [] | object [] => simp only [write]
  | array (item :: items) =>
    simp [write, print, write_eq_print_append, writeItems_eq_printItems_append]
  | object ((key, value) :: members) =>
    simp [write, print, write_eq_print_append, writeMembers_eq_printMembers_append]

theorem writeItems_eq_printItems_append (depth : Nat) (items : List Json) (rest : Text) :
    writeItems depth items rest = printItems depth items ++ rest := by
  match items with
  | [] => simp [writeItems, printItems]
  | item :: items =>
    simp [writeItems, printItems, write_eq_print_append, writeItems_eq_printItems_append]

theorem writeMembers_eq_printMembers_append (depth : Nat) (members : List (Option Text × Json))
    (rest : Text) : writeMembers depth members rest = printMembers depth members ++ rest := by
  match members with
  | [] => simp [writeMembers, printMembers]
  | (key, value) :: members =>
    simp [writeMembers, printMembers, write_eq_print_append, writeMembers_eq_printMembers_append]

end

/-- The text of a value, with a newline at its end. -/
def render (j : Json) : Text := write 0 j ['\n']

theorem render_eq_print (j : Json) : j.render = print 0 j ++ ['\n'] :=
  write_eq_print_append 0 j _

end StyleGuide.Json
