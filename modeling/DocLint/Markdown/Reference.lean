import DocLint.Markdown.CharacterReference
import DocLint.Markdown.Container
import DocLint.Text.CaseFold

/-!
# Labels, destinations and titles

The parts that definitions, links and images are made of. Each reader takes cells of one or several
lines and returns what remains of them.
-/

namespace DocLint.Markdown

set_option autoImplicit false

/-- Drops white space with at most one line ending in it. -/
def dropBlanksEol (cells : List Cell) : List Cell :=
  match dropBlanks cells with
  | c :: rest => if c.isEol then dropBlanks rest else c :: rest
  | [] => []

/-- Reads a label up to its closing bracket: at most 999 bytes, not all of them white space, without
an opening bracket. Line endings and the white space after them do not count. `size` bytes were read,
`seen` tells that one of them was no white space, `fresh` that the line has only begun, and `escaped` that
the next cell stands after a backslash. -/
def labelRest? (size : Nat) (seen fresh escaped : Bool) (taken : List Cell) :
    List Cell → Option (List Cell × List Cell)
  | [] => none
  | c :: rest =>
    if escaped && (c.char == '[' || c.char == '\\' || c.char == ']') then
      labelRest? (size + 1) true false false (c :: taken) rest
    else if labelLimit < size || c.char == '[' then
      none
    else if c.char == ']' then
      if seen then some (taken.reverse, rest) else none
    else if c.isEol || (fresh && c.isBlank) then
      labelRest? size seen true false (c :: taken) rest
    else
      labelRest? (size + c.char.utf8Size) (seen || !c.isBlank) false (c.char == '\\') (c :: taken) rest

/-- Reads a label with its brackets; `size` bytes count as read before. -/
def label? (size : Nat) : List Cell → Option (List Cell × List Cell)
  | c :: rest => if c.char == '[' then labelRest? size false false false [] rest else none
  | [] => none

/-- ASCII controls that end an address. -/
def isControl (c : Char) : Bool :=
  (1 ≤ c.toNat && c.toNat < 32) || c.toNat == 127

/-- Reads a destination between angle brackets after the first of them. -/
def enclosedRest? (escaped : Bool) : List Cell → Option (List Cell)
  | [] => none
  | c :: rest =>
    if escaped && (c.char == '<' || c.char == '\\' || c.char == '>') then enclosedRest? false rest
    else if c.isEol || c.char == '<' then none
    else if c.char == '>' then some rest
    else enclosedRest? (c.char == '\\') rest

/-- Reads a destination without angle brackets; `depth` parentheses are open, of at most `limit`. -/
def plainRest? (limit : Option Nat) (depth : Nat) (escaped : Bool) :
    List Cell → Option (List Cell)
  | [] => if depth = 0 then some [] else none
  | c :: rest =>
    if escaped && (c.char == '(' || c.char == '\\' || c.char == ')') then
      plainRest? limit depth false rest
    else if depth = 0 && (c.isBlank || c.isEol || c.char == ')') then
      some (c :: rest)
    else if c.char == '(' then
      if limit.all (depth < ·) then plainRest? limit (depth + 1) false rest else none
    else if isControl c.char || c.char == ' ' then
      none
    else if c.char == ')' then
      plainRest? limit (depth - 1) false rest
    else
      plainRest? limit depth (c.char == '\\') rest

/-- Reads a destination; without angle brackets, at most `limit` nested parentheses, of which `depth` count
as open before. -/
def destination? (limit : Option Nat) (depth : Nat) : List Cell → Option (List Cell)
  | [] => none
  | c :: rest =>
    if c.char == '<' then enclosedRest? false rest
    else if isControl c.char || c.char == ' ' || c.char == ')' then none
    else plainRest? limit depth false (c :: rest)

/-- Reads a title up to its closing mark. -/
def titleRest? (mark : Char) (escaped : Bool) : List Cell → Option (List Cell)
  | [] => none
  | c :: rest =>
    if escaped && (c.char == '"' || c.char == '\'' || c.char == ')' || c.char == '\\') then
      titleRest? mark false rest
    else if c.char == mark then some rest
    else titleRest? mark (c.char == '\\') rest

/-- Reads a title with its marks. -/
def title? : List Cell → Option (List Cell)
  | [] => none
  | c :: rest =>
    if c.char == '"' || c.char == '\'' then titleRest? c.char false rest
    else if c.char == '(' then titleRest? ')' false rest
    else none

/-- Whether nothing but white space is left of the line. -/
def atLineEnd (cells : List Cell) : Bool :=
  match dropBlanks cells with
  | [] => true
  | c :: _ => c.isEol

/-- White space between the words of a label. -/
def isLabelSpace (c : Char) : Bool :=
  c == ' ' || c == '\t' || c == '\n' || c == '\r'

/-- The words of a label, separated by white space. -/
def labelWords (cs : List Char) : List (List Char) :=
  go [] cs
where
  /-- `word` holds the characters of the current word, newest first. -/
  go (word : List Char) : List Char → List (List Char)
    | [] => emit word
    | c :: rest =>
      if isLabelSpace c then emit word ++ go [] rest
      else go (c :: word) rest
  emit (word : List Char) : List (List Char) :=
    if word.isEmpty then [] else [word.reverse]

/-- Words with single spaces between them; none after the first word if `joined`. -/
def joinWords (joined : Bool) : List (List Char) → List Char
  | [] => []
  | [word] => word
  | word :: rest => word ++ (if joined then [] else [' ']) ++ joinWords false rest

/-- What two labels have in common when they name the same thing: their words, joined by single
spaces and with case folded. A word that a label begins with is joined to the next one directly. -/
def normalizeLabel (cs : List Char) : List Char :=
  let joined := cs.head?.any fun c => !isLabelSpace c
  (joinWords joined (labelWords cs)).flatMap Text.foldChar

/-- The characters of the source that some cells span, prefixes of containers between them included. -/
def sourceOf (source : List Char) (cells : List Cell) : List Char :=
  match cells.head?, cells.getLast? with
  | some a, some b =>
    ((Text.dropBytes a.offset source).bind (Text.takeBytes (b.stop - a.offset))).getD []
  | _, _ => []

end DocLint.Markdown
