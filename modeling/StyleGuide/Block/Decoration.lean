import StyleGuide.Block

/-!
The text of a block without its decoration: the delimiters, and the asterisks at the line starts.
The permissive reading takes any block, the strict one only blocks of a fixed shape.
-/

namespace StyleGuide.Block

/-- Whether a line holds an opening and nothing else, or a closing and nothing else. -/
def isDelimiter (line : Text) : Bool :=
  let t := Text.trim line
  t = opening || t = closing

/-- A line without surrounding blanks, an asterisk and a space in front, a slash with asterisks in
front, and a closing at the end, taken away in this order. -/
def undecorateLine (line : Text) : Text :=
  let t := Text.trim line
  let t := match t with
    | '*' :: rest => Text.dropStart [' '] rest
    | t => t
  let t := match t with
    | '/' :: '*' :: rest => rest.dropWhile (· = '*')
    | t => t
  Text.trim (Text.dropStop closing t)

/-- The permissive reading. -/
def undecorate (raw : Text) : Text :=
  Text.joinLines (((Text.lines raw).filter fun line => !isDelimiter line).map undecorateLine)

/-- A line between the first and the last of a strict block: a space and an asterisk, then at most
one space that belongs to the decoration. -/
def strictLine? (line : Text) : Option Text :=
  (Text.after? [' ', '*'] line).map fun rest => Text.trimEnd (Text.dropStart [' '] rest)

/-- The strict reading of a block's lines. -/
def strictLines? (lines : List Text) : Option (List Text) :=
  match lines with
  | [] | [_] => none
  | first :: rest =>
    if first = opening ∧ rest.getLast? = some (' ' :: closing) then rest.dropLast.mapM strictLine?
    else none

/-- The strict reading: the block starts its line, has its delimiters on lines of their own, and an
asterisk in front of every line between them. Other blocks have none. -/
def undecorateStrict? (b : Block) : Option Text :=
  if b.startsLine then (strictLines? (Text.lines b.text)).map Text.joinLines else none

end StyleGuide.Block
