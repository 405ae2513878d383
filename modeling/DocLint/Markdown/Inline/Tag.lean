import DocLint.Markdown.CharacterReference

/-!
# HTML in text

Tags, comments, instructions, declarations and sections of character data may stand inside a text.
They may run over several lines. `tagLength?` gives the number of characters of the one that a text
begins with.
-/

namespace DocLint.Markdown

set_option autoImplicit false

/-- Where HTML in text is being read. -/
inductive InlineHtml where
  | comment
  /-- After one dash inside a comment. -/
  | commentDash
  /-- After two dashes inside a comment, and where one begins. -/
  | commentDashes
  | instruction
  /-- After the question mark that may end an instruction. -/
  | instructionMark
  | declaration
  | cdata
  /-- After one closing bracket. -/
  | cdataBracket
  /-- After two closing brackets. -/
  | cdataBrackets
  | closeName
  | closeBetween
  | openName
  | openBetween
  | attributeName
  | attributeAfterName
  | attributeBeforeValue
  | attributeQuoted (quote : Char)
  | attributeAfterQuoted
  | attributeUnquoted
  /-- Where the closing angle bracket has to follow. -/
  | last
  deriving DecidableEq, Repr

/-- The outcome of reading one character. -/
inductive InlineStep where
  | more (scan : InlineHtml)
  | done
  | fail
  deriving DecidableEq, Repr

namespace InlineHtml

/-- White space inside a tag. -/
def isSpace (c : Char) : Bool :=
  c == ' ' || c == '\t' || c == '\n'

/-- Reads a character where only the closing angle bracket may follow. -/
def atLast (c : Char) : InlineStep :=
  if c == '>' then .done else .fail

/-- Reads a character inside a comment. -/
def inComment (c : Char) : InlineStep :=
  .more (if c == '-' then .commentDash else .comment)

/-- Reads a character inside an instruction. -/
def inInstruction (c : Char) : InlineStep :=
  .more (if c == '?' then .instructionMark else .instruction)

/-- Reads a character inside a section of character data. -/
def inCdata (c : Char) : InlineStep :=
  .more (if c == ']' then .cdataBracket else .cdata)

/-- Reads a character between the attributes of a tag. -/
def atBetween (c : Char) : InlineStep :=
  if isSpace c then .more .openBetween
  else if c == '/' then .more .last
  else if isAsciiAlpha c || c == ':' || c == '_' then .more .attributeName
  else atLast c

/-- Reads a character after the name of an attribute. -/
def atAfterName (c : Char) : InlineStep :=
  if isSpace c then .more .attributeAfterName
  else if c == '=' then .more .attributeBeforeValue
  else atBetween c

/-- Reads one character. -/
def next (scan : InlineHtml) (c : Char) : InlineStep :=
  match scan with
  | comment => inComment c
  | commentDash => if c == '-' then .more commentDashes else inComment c
  | commentDashes =>
    if c == '>' then .done else if c == '-' then .more commentDashes else inComment c
  | instruction => inInstruction c
  | instructionMark => if c == '>' then .done else inInstruction c
  | declaration => if c == '>' then .done else .more declaration
  | cdata => inCdata c
  | cdataBracket => if c == ']' then .more cdataBrackets else inCdata c
  | cdataBrackets =>
    if c == '>' then .done else if c == ']' then .more cdataBrackets else inCdata c
  | closeName =>
    if isAsciiAlphanumeric c || c == '-' then .more closeName
    else if isSpace c then .more closeBetween
    else atLast c
  | closeBetween => if isSpace c then .more closeBetween else atLast c
  | openName =>
    if isAsciiAlphanumeric c || c == '-' then .more openName
    else if isSpace c || c == '/' || c == '>' then atBetween c
    else .fail
  | openBetween => atBetween c
  | attributeName =>
    if isAsciiAlphanumeric c || c == '-' || c == '.' || c == ':' || c == '_' then .more attributeName
    else atAfterName c
  | attributeAfterName => atAfterName c
  | attributeBeforeValue =>
    if isSpace c then .more attributeBeforeValue
    else if c == '"' || c == '\'' then .more (attributeQuoted c)
    else if c == '<' || c == '=' || c == '>' || c == '`' then .fail
    else .more attributeUnquoted
  | attributeQuoted quote =>
    .more (if c == quote then attributeAfterQuoted else attributeQuoted quote)
  | attributeAfterQuoted => if isSpace c || c == '/' || c == '>' then atBetween c else .fail
  | attributeUnquoted =>
    if c == '"' || c == '\'' || c == '<' || c == '=' || c == '`' then .fail
    else if isSpace c || c == '/' || c == '>' then atBetween c
    else .more attributeUnquoted
  | last => atLast c

/-- The number of characters up to the end of what is being read, `n` having been read before. -/
def length? (scan : InlineHtml) (n : Nat) : List Char → Option Nat
  | [] => none
  | c :: rest =>
    match scan.next c with
    | .more scan => length? scan (n + 1) rest
    | .done => some (n + 1)
    | .fail => none

end InlineHtml

/-- The length of a comment after its opening, where a dash may already belong to its end. -/
def commentLength? (n : Nat) (cs : List Char) : Option Nat :=
  match cs with
  | '>' :: _ => some (n + 1)
  | '-' :: '>' :: _ => some (n + 2)
  | _ => InlineHtml.comment.length? n cs

/-- What a section of character data opens with, after `<![`. -/
def cdataOpening : List Char :=
  ['C', 'D', 'A', 'T', 'A', '[']

/-- The number of characters in which two lists agree from the begin. -/
def commonLength : List Char → List Char → Nat
  | a :: as, b :: bs => if a == b then commonLength as bs + 1 else 0
  | _, _ => 0

/-- The letters of an opening of character data that have been met after a text: where the opening of the
text breaks off, they count for the next one. `used` have been met before. -/
def cdataUsed (used : Nat) : List Char → Nat
  | '<' :: '!' :: '[' :: rest =>
    let opening := cdataOpening.drop used
    let n := commonLength opening rest
    if n = opening.length then 0 else used + n
  | _ => used

/-- The length of the HTML that a text begins with. `used` letters of the opening of character data have
been met before. -/
def tagLength? (used : Nat) : List Char → Option Nat
  | '<' :: '!' :: '-' :: '-' :: rest => commentLength? 4 rest
  | '<' :: '!' :: '[' :: rest =>
    let opening := cdataOpening.drop used
    if opening.isPrefixOf rest then
      InlineHtml.cdata.length? (3 + opening.length) (rest.drop opening.length)
    else
      none
  | '<' :: '!' :: c :: rest =>
    if isAsciiAlpha c then InlineHtml.declaration.length? 3 rest else none
  | '<' :: '?' :: rest => InlineHtml.instruction.length? 2 rest
  | '<' :: '/' :: c :: rest =>
    if isAsciiAlpha c then InlineHtml.closeName.length? 3 rest else none
  | '<' :: c :: rest => if isAsciiAlpha c then InlineHtml.openName.length? 2 rest else none
  | _ => none

end DocLint.Markdown
