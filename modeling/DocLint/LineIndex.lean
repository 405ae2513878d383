import DocLint.Token.Walk

/-!
# What every line belongs to

The index has one record for every line of a document, blank lines included. A record holds the
innermost block that covers the line, and tells prose, code and front matter apart.
-/

namespace DocLint

set_option autoImplicit false

/-- What a line is part of. -/
inductive LineKind where
  /-- Ordinary content, or no block at all. -/
  | text
  /-- Code, its delimiters included. -/
  | code
  | frontMatter
  deriving DecidableEq, Repr

namespace LineKind

def name : LineKind → String
  | text => "text"
  | code => "code"
  | frontMatter => "front_matter"

def ofName? (s : String) : Option LineKind :=
  [text, code, frontMatter].find? fun k => k.name == s

/-- The kind of the lines of a block. -/
def ofType (type : TokenType) : LineKind :=
  if type.isCode then code else if type = .frontMatter then frontMatter else text

end LineKind

/-- What is known of one line. -/
structure LineRecord where
  /-- The number of the line, counted from one. -/
  number : Nat
  text : String
  kind : LineKind
  /-- The innermost block that covers the line. -/
  token : Option Token
  deriving Repr

namespace LineRecord

/-- Whether the line is part of code. -/
def isCode (r : LineRecord) : Bool :=
  r.kind = .code

/-- The record with a block for its line. -/
def setBlock (block : Token) (r : LineRecord) : LineRecord :=
  { r with kind := LineKind.ofType block.type, token := some block }

end LineRecord

/-- The records of all lines of a document. -/
structure LineIndex where
  records : List LineRecord
  deriving Repr

namespace LineIndex

/-- The records of lines before any block is known. -/
def plainRecords (texts : List String) : List LineRecord :=
  texts.mapIdx fun i text => ⟨i + 1, text, .text, none⟩

/-- Enters a block into the records from its first to its last line. Lines are counted from one, so a block
that begins at zero begins at the first line; one that ends behind the last line ends there. -/
def enterBlock (records : List LineRecord) (block : Token) : List LineRecord :=
  let first := max block.line 1
  let last := min block.endLine records.length
  let reached := records.take last
  reached.take (first - 1) ++ (reached.drop (first - 1)).map (·.setBlock block) ++ records.drop last

/-- The index of some lines and the tokens over them. A walk comes to a block before it comes to the blocks
inside it, so the block that is entered last for a line is the innermost one. -/
def build (texts : List String) (tokens : List Token) : LineIndex :=
  ⟨((TokenCursor.ofTokens tokens).toList.filter (·.type.isBlock)).foldl enterBlock (plainRecords texts)⟩

/-- The number of lines. -/
def size (index : LineIndex) : Nat :=
  index.records.length

/-- Whether there are no lines. -/
def isEmpty (index : LineIndex) : Bool :=
  index.records.isEmpty

/-- The record of a line, counted from one. -/
def get? (index : LineIndex) (number : Nat) : Option LineRecord :=
  if number = 0 then none else index.records[number - 1]?

/-- Visits the records in the order of the lines, each with its place counted from zero. -/
def mapRecords {α : Type} (index : LineIndex) (visit : LineRecord → Nat → α) : List α :=
  index.records.mapIdx fun i r => visit r i

end LineIndex

end DocLint
