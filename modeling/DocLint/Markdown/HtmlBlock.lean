import DocLint.Markdown.Block
import DocLint.Markdown.CharacterReference

/-!
# Blocks of HTML

What a block of HTML opens with decides where it ends: with a closing tag, with the end of a comment,
an instruction, a declaration or a section of character data, or before a blank line.
-/

namespace DocLint.Markdown

set_option autoImplicit false

/-- What a block of HTML opens with. -/
inductive HtmlKind where
  /-- A tag whose content is not HTML. -/
  | raw
  | comment
  | instruction
  | declaration
  | cdata
  /-- A tag that structures a document. -/
  | basic
  /-- Any other tag that stands alone on its line. -/
  | complete
  deriving DecidableEq, Repr

namespace HtmlKind

/-- Whether the block ends before a blank line. -/
def endsAtBlank : HtmlKind → Bool
  | basic => true
  | complete => true
  | _ => false

end HtmlKind

/-- Tags whose content is not HTML. -/
def rawTags : List String :=
  ["pre", "script", "style", "textarea"]

/-- Tags that structure a document. -/
def blockTags : List String :=
  ["address", "article", "aside", "base", "basefont", "blockquote", "body", "caption", "center",
    "col", "colgroup", "dd", "details", "dialog", "dir", "div", "dl", "dt", "fieldset", "figcaption",
    "figure", "footer", "form", "frame", "frameset", "h1", "h2", "h3", "h4", "h5", "h6", "head",
    "header", "hr", "html", "iframe", "legend", "li", "link", "main", "menu", "menuitem", "nav",
    "noframes", "ol", "optgroup", "option", "p", "param", "search", "section", "summary", "table",
    "tbody", "td", "tfoot", "th", "thead", "title", "tr", "track", "ul"]

/-- Whether a tag name, in any case, is one of a list. -/
def isTagOf (tags : List String) (name : List Char) : Bool :=
  tags.any fun tag => tag.toList == name.map Char.toLower

/-- How far the end of a block of HTML has been read. -/
inductive HtmlScan where
  | inside
  /-- After one dash of a comment. -/
  | dash
  /-- Where an angle bracket closes the block. -/
  | closing
  /-- After one bracket of character data. -/
  | bracket
  /-- After the opening bracket of a tag. -/
  | tagOpen
  /-- In the name of a closing tag, newest character first. -/
  | tagName (name : List Char)
  deriving DecidableEq, Repr

/-- Reads one character inside a block of HTML; `none` when it closes the block. -/
def HtmlScan.inside? (kind : HtmlKind) (c : Char) : Option HtmlScan :=
  match kind with
  | .comment => some (if c == '-' then .dash else .inside)
  | .raw => some (if c == '<' then .tagOpen else .inside)
  | .declaration => if c == '>' then none else some .inside
  | .instruction => some (if c == '?' then .closing else .inside)
  | .cdata => some (if c == ']' then .bracket else .inside)
  | .basic | .complete => some .inside

/-- The greatest length of a tag name whose content is not HTML. -/
def rawTagLimit : Nat := 8

/-- Reads one character of a block of HTML; `none` when it closes the block. -/
def HtmlScan.next? (kind : HtmlKind) (scan : HtmlScan) (c : Char) : Option HtmlScan :=
  match scan with
  | .inside => inside? kind c
  | .dash => if c == '-' then some .closing else inside? kind c
  | .closing =>
    if c == '>' then none
    else if kind = .comment && c == '-' then some .closing
    else inside? kind c
  | .bracket => if c == ']' then some .closing else inside? kind c
  | .tagOpen => if c == '/' then some (.tagName []) else inside? kind c
  | .tagName name =>
    if c == '>' then
      if isTagOf rawTags name.reverse then none else inside? kind c
    else if isAsciiAlpha c && name.length < rawTagLimit then
      some (.tagName (c :: name))
    else
      inside? kind c

/-- Whether a block of HTML closes on a line that is read from `scan` on. -/
def htmlCloses (kind : HtmlKind) (scan : HtmlScan) : List Char → Bool
  | [] => false
  | c :: rest =>
    match scan.next? kind c with
    | none => true
    | some scan => htmlCloses kind scan rest

/-- Where a tag that stands alone on its line is being read. -/
inductive TagScan where
  /-- After the name of a closing tag. -/
  | closingName
  /-- Before an attribute or the end of the tag. -/
  | beforeName
  | name
  | afterName
  | beforeValue
  | quoted (quote : Char)
  | afterQuoted
  | unquoted
  /-- Where the angle bracket has to follow. -/
  | last
  /-- After the tag. -/
  | done
  deriving DecidableEq, Repr

/-- Characters an attribute name may begin with. -/
def beginsAttribute (c : Char) : Bool :=
  isAsciiAlphanumeric c || c == ':' || c == '_'

/-- Characters an attribute name may go on with. -/
def continuesAttribute (c : Char) : Bool :=
  beginsAttribute c || c == '-' || c == '.'

/-- Characters that end an attribute value without quotes. -/
def endsUnquoted (c : Char) : Bool :=
  c == '\t' || c == '\n' || c == ' ' || c == '"' || c == '\'' || c == '/' || c == '<' || c == '=' ||
    c == '>' || c == '`'

namespace TagScan

/-- Reads a character where an angle bracket has to follow. -/
def atLast (c : Char) : Option TagScan :=
  if c == '>' then some .done else none

/-- Reads a character before an attribute or the end of the tag. -/
def atBeforeName (c : Char) : Option TagScan :=
  if c == ' ' || c == '\t' then some .beforeName
  else if c == '/' then some .last
  else if beginsAttribute c then some .name
  else atLast c

/-- Reads a character after an attribute name. -/
def atAfterName (c : Char) : Option TagScan :=
  if c == ' ' || c == '\t' then some .afterName
  else if c == '=' then some .beforeValue
  else atBeforeName c

/-- Reads one character of a tag. -/
def next? (scan : TagScan) (c : Char) : Option TagScan :=
  match scan with
  | .closingName => if c == ' ' || c == '\t' then some .closingName else atLast c
  | .beforeName => atBeforeName c
  | .name => if continuesAttribute c then some .name else atAfterName c
  | .afterName => atAfterName c
  | .beforeValue =>
    if c == ' ' || c == '\t' then some .beforeValue
    else if c == '"' || c == '\'' then some (.quoted c)
    else if c == '<' || c == '=' || c == '>' || c == '`' then none
    else if endsUnquoted c then atAfterName c
    else some .unquoted
  | .quoted quote => some (if c == quote then .afterQuoted else .quoted quote)
  | .afterQuoted =>
    if c == ' ' || c == '\t' || c == '/' || c == '>' then atBeforeName c else none
  | .unquoted => if endsUnquoted c then atAfterName c else some .unquoted
  | .last => atLast c
  | .done => if c == ' ' || c == '\t' then some .done else none

end TagScan

/-- Whether a tag read from `scan` on is complete at the end of its line. -/
def tagAlone (scan : TagScan) : List Char → Bool
  | [] => scan == .done
  | c :: rest =>
    match scan.next? c with
    | some scan => tagAlone scan rest
    | none => false

/-- Characters of a tag name after the first. -/
def isTagNameChar (c : Char) : Bool :=
  isAsciiAlphanumeric c || c == '-'

/-- Reads the tag that a block of HTML opens with: its kind and whether the block closes on the same
line. A tag that only stands alone on its line does not end a paragraph. -/
def openingTag? (standalone closing : Bool) (cs : List Char) : Option (HtmlKind × Bool) :=
  let name := cs.takeWhile isTagNameChar
  let rest := cs.drop name.length
  let slash := rest.head? == some '/'
  let delimited := match rest with
    | [] => true
    | c :: _ => c == ' ' || c == '\t' || c == '/' || c == '>'
  if !delimited then
    none
  else if !slash && !closing && isTagOf rawTags name then
    some (.raw, htmlCloses .raw .inside rest)
  else if isTagOf blockTags name then
    if slash && (rest.drop 1).head? != some '>' then none else some (.basic, false)
  else if standalone && tagAlone (if closing then .closingName else .beforeName) rest then
    some (.complete, false)
  else
    none

/-- Reads what a block of HTML opens with: its kind and whether it closes on the same line. `closing` tells
that an opening tag counts as a closing one. -/
def openingHtml? (standalone closing : Bool) : List Char → Option (HtmlKind × Bool)
  | '<' :: '!' :: '-' :: '-' :: rest => some (.comment, htmlCloses .comment .closing rest)
  | '<' :: '!' :: '[' :: 'C' :: 'D' :: 'A' :: 'T' :: 'A' :: '[' :: rest =>
    some (.cdata, htmlCloses .cdata .inside rest)
  | '<' :: '!' :: c :: rest =>
    if isAsciiAlpha c then some (.declaration, htmlCloses .declaration .closing rest) else none
  | '<' :: '?' :: rest => some (.instruction, htmlCloses .instruction .closing rest)
  | '<' :: '/' :: c :: rest =>
    if isAsciiAlpha c then openingTag? standalone true (c :: rest) else none
  | '<' :: c :: rest => if isAsciiAlpha c then openingTag? standalone closing (c :: rest) else none
  | _ => none

/-- Reads a line that opens a block of HTML: the kind of the block, and whether it closes on the same
line. -/
def htmlStart? (standalone closing : Bool) (cells : List Cell) : Option (HtmlKind × Bool) :=
  (afterIndent? cells).bind fun rest => openingHtml? standalone closing (chars rest)

/-- Whether a line begins with a tag. -/
def beginsTag (cells : List Cell) : Bool :=
  match (afterIndent? cells).map chars with
  | some ('<' :: '/' :: c :: _) => isAsciiAlpha c
  | some ('<' :: c :: _) => isAsciiAlpha c
  | _ => false

/-! ## Unfinished openings

Where the source ends before it is decided whether a line opens a block of HTML, the line may still turn out
to be text. -/

/-- Whether a tag could still be alone on its line if the line went on. -/
def mayStandAlone (scan : TagScan) : List Char → Bool
  | [] => true
  | c :: rest =>
    match scan.next? c with
    | some scan => mayStandAlone scan rest
    | none => false

/-- Whether a tag could still open a block of HTML if the line went on. -/
def isUnfinishedTag (closing : Bool) (cs : List Char) : Bool :=
  let name := cs.takeWhile isTagNameChar
  match cs.drop name.length with
  | [] => true
  | '/' :: [] => true
  | c :: rest =>
    (c == ' ' || c == '\t' || c == '/' || c == '>') &&
      mayStandAlone (if closing then .closingName else .beforeName) (c :: rest)

/-- Whether a text could still open a block of HTML if it went on. `closing` tells that an opening tag counts as a
closing one. -/
def isUnfinishedHtml (closing : Bool) : List Char → Bool
  | '<' :: '!' :: rest => rest.isEmpty || rest == ['-'] || rest.isPrefixOf "[CDATA[".toList
  | '<' :: '/' :: rest =>
    match rest with
    | [] => true
    | c :: _ => isAsciiAlpha c && isUnfinishedTag true rest
  | '<' :: rest =>
    match rest with
    | [] => true
    | c :: _ => isAsciiAlpha c && isUnfinishedTag closing rest
  | _ => false

end DocLint.Markdown
