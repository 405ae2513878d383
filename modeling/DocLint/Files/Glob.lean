/-!
# Globs

A glob is matched against the bytes of a whole path. `?` stands for one byte and `*` for any number of
them, slashes included. Two stars between slashes stand for any number of components. Alternatives are
listed between braces; an empty one among them is passed over. A glob that asks for the name of a file
does not match a path that ends with `..`.
-/

namespace DocLint

set_option autoImplicit false

inductive GlobPart where
  | literal (c : Char)
  /-- Any byte. -/
  | any
  /-- Any number of bytes. -/
  | star
  /-- Two stars at the begin: nothing, a slash, or anything that ends with a slash. -/
  | leadingStars
  /-- Two stars at the end: a slash and anything after it. -/
  | trailingStars
  /-- Two stars between slashes: a slash, or anything between two slashes. -/
  | innerStars
  /-- A byte in one of the ranges, or in none of them. -/
  | oneOf (negated : Bool) (ranges : List (Char × Char))
  | alternatives (branches : List (List GlobPart))
  deriving Repr

structure Glob where
  parts : List GlobPart
  deriving Repr

/-- What is wrong with the text of a glob. -/
inductive GlobFault where
  | unclosedClass
  | invalidRange (low high : Char)
  | unopenedAlternatives
  | unclosedAlternatives
  | danglingEscape
  deriving DecidableEq, Repr

/-- The text of a fault. -/
def GlobFault.message : GlobFault → String
  | unclosedClass => "unclosed character class; missing ']'"
  | invalidRange low high =>
    "invalid range; '" ++ String.singleton low ++ "' > '" ++ String.singleton high ++ "'"
  | unopenedAlternatives =>
    "unopened alternate group; missing '\x7b' (maybe escape '\x7d' with '[\x7d]'?)"
  | unclosedAlternatives =>
    "unclosed alternate group; missing '\x7d' (maybe escape '\x7b' with '[\x7b]'?)"
  | danglingEscape => "dangling '\\'"

namespace Glob

/-! ## Reading -/

/-- Branches that are being read: their parts, newest first. -/
abbrev Branch := List GlobPart

/-- A glob that is being read. -/
structure Draft where
  /-- The innermost branch. -/
  current : Branch
  /-- The complete branches of the innermost group, newest first; none outside of groups. -/
  siblings : List Branch
  /-- The branches around the innermost group, each with its complete siblings, innermost first. -/
  outer : List (Branch × List Branch)

namespace Draft

/-- A glob of which nothing has been read. -/
def empty : Draft :=
  ⟨[], [], []⟩

/-- Adds a part. -/
def push (d : Draft) (p : GlobPart) : Draft :=
  { d with current := p :: d.current }

/-- Whether a group is open. -/
def inGroup (d : Draft) : Bool :=
  !d.outer.isEmpty

def openGroup (d : Draft) : Draft :=
  ⟨[], [], (d.current, d.siblings) :: d.outer⟩

/-- Begins another branch of the innermost group. -/
def nextBranch (d : Draft) : Draft :=
  { d with current := [], siblings := d.current :: d.siblings }

/-- Closes the innermost group. -/
def closeGroup (d : Draft) : Except GlobFault Draft :=
  match d.outer with
  | [] => .error .unopenedAlternatives
  | (branch, siblings) :: outer =>
    let branches := ((d.current :: d.siblings).map List.reverse).reverse
    .ok ⟨.alternatives branches :: branch, siblings, outer⟩

/-- Puts two stars in the place of the slash before them. -/
def replaceLast (d : Draft) (p : GlobPart) : Draft :=
  match d.current with
  | .leadingStars :: _ => d
  | .trailingStars :: _ => d
  | _ :: rest => { d with current := p :: rest }
  | [] => d.push p

end Draft

/-- Ranges of a class that is being read, newest first. -/
structure ClassDraft where
  ranges : List (Char × Char)
  /-- Whether a hyphen has been read that may make a range. -/
  inRange : Bool
  first : Bool

/-- Extends the newest range. -/
def extendRange (ranges : List (Char × Char)) (c : Char) : Except GlobFault (List (Char × Char)) :=
  match ranges with
  | (low, _) :: rest => if c < low then .error (.invalidRange low c) else .ok ((low, c) :: rest)
  | [] => .ok [(c, c)]

/-- Reads a class up to its bracket: its ranges and the rest. -/
def readClass (d : ClassDraft) : List Char → Except GlobFault (List (Char × Char) × List Char)
  | [] => .error .unclosedClass
  | c :: rest =>
    if c == ']' && !d.first then
      .ok ((if d.inRange then ('-', '-') :: d.ranges else d.ranges).reverse, rest)
    else if c == '-' && !d.first && !d.inRange then
      readClass ⟨d.ranges, true, false⟩ rest
    else if d.inRange then
      match extendRange d.ranges c with
      | .error f => .error f
      | .ok ranges => readClass ⟨ranges, false, false⟩ rest
    else
      readClass ⟨(c, c) :: d.ranges, false, false⟩ rest

/-- Reads two stars; `prev` is the character before them. -/
def readStars (d : Draft) (prev : Option Char) (rest : List Char) : Draft × List Char :=
  let plain : Draft × List Char := ((d.push .star).push .star, rest)
  if d.current.isEmpty then
    match rest with
    | [] => (d.push .leadingStars, [])
    | c :: more => if c == '/' then (d.push .leadingStars, more) else plain
  else if prev != some '/' && !(d.inGroup && (prev == some ',' || prev == some '\x7b')) then
    plain
  else
    match rest with
    | [] => (d.replaceLast .trailingStars, [])
    | c :: more =>
      if d.inGroup && (c == ',' || c == '\x7d') then (d.replaceLast .trailingStars, rest)
      else if c == '/' then (d.replaceLast .innerStars, more)
      else plain

/-- Reads the parts of a glob; `prev` is the character before the text. Every step takes a character, so
their number bounds the steps. -/
def readParts : Nat → Draft → Option Char → List Char → Except GlobFault Draft
  | 0, d, _, _ => .ok d
  | _, d, _, [] => .ok d
  | fuel + 1, d, prev, c :: rest =>
    /- The character before what remains. -/
    let before (after : List Char) : Option Char :=
      (c :: rest)[rest.length - after.length]?
    let goOn (d : Draft) (after : List Char) : Except GlobFault Draft :=
      readParts fuel d (before after) after
    match c with
    | '?' => goOn (d.push .any) rest
    | '*' =>
      match rest with
      | '*' :: more =>
        let (d, after) := readStars d prev more
        goOn d after
      | _ => goOn (d.push .star) rest
    | '[' =>
      let (negated, body) := match rest with
        | '!' :: more => (true, more)
        | '^' :: more => (true, more)
        | _ => (false, rest)
      match readClass ⟨[], false, true⟩ body with
      | .error f => .error f
      | .ok (ranges, after) => goOn (d.push (.oneOf negated ranges)) after
    | '\x7b' => goOn d.openGroup rest
    | '\x7d' =>
      match d.closeGroup with
      | .error f => .error f
      | .ok d => goOn d rest
    | ',' => goOn (if d.inGroup then d.nextBranch else d.push (.literal ',')) rest
    | '\\' =>
      match rest with
      | [] => .error .danglingEscape
      | e :: more => goOn (d.push (.literal e)) more
    | c => goOn (d.push (.literal c)) rest

/-- Reads a glob. -/
def parse (text : String) : Except GlobFault Glob := do
  let cs := text.toList
  let d ← readParts (cs.length + 1) .empty none cs
  if d.inGroup then
    throw .unclosedAlternatives
  return ⟨d.current.reverse⟩

/-- What is said of a pattern that is no glob. -/
def faultMessage (pattern : String) (f : GlobFault) : String :=
  "Invalid pattern '" ++ pattern ++ "': error parsing glob '" ++ pattern ++ "': " ++ f.message

/-! ## Matching -/

/-- The bytes of a text. -/
def bytesOf (s : String) : List UInt8 :=
  s.toUTF8.toList

def charBytes (c : Char) : List UInt8 :=
  bytesOf (String.singleton c)

/-- The ranges of bytes that a range of characters stands for: the last byte of its low end begins the
range that the first byte of its high end closes, and all other bytes stand for themselves. -/
def byteRanges (range : Char × Char) : List (UInt8 × UInt8) :=
  let single (b : UInt8) : UInt8 × UInt8 := (b, b)
  let low := charBytes range.1
  if range.1 = range.2 then
    low.map single
  else
    match low.getLast?, charBytes range.2 with
    | some a, b :: rest => low.dropLast.map single ++ (a, b) :: rest.map single
    | _, _ => []

/-- Whether a byte lies in one of some ranges. -/
def inByteRanges (ranges : List (UInt8 × UInt8)) (b : UInt8) : Bool :=
  ranges.any fun r => r.1 ≤ b && b ≤ r.2

/-- All ends of a list, itself included. -/
def tails {α : Type} : List α → List (List α)
  | [] => [[]]
  | a :: rest => (a :: rest) :: tails rest

/-- The byte of a slash. -/
def slash : UInt8 := 0x2F

/-- What may be left of some bytes after anything that ends with a slash. -/
def afterSlashes : List UInt8 → List (List UInt8)
  | [] => []
  | b :: rest => if b = slash then rest :: afterSlashes rest else afterSlashes rest

/-- What is left of some bytes after one that satisfies `p`. -/
def afterByte (p : UInt8 → Bool) : List UInt8 → List (List UInt8)
  | [] => []
  | b :: rest => if p b then [rest] else []

/-- What is left of some bytes after the given ones. -/
def afterBytes (bytes cs : List UInt8) : List (List UInt8) :=
  if bytes.isPrefixOf cs then [cs.drop bytes.length] else []

/-- Keeps one of the rests of each length. Rests of one text with one length are equal. -/
def distinct (rests : List (List UInt8)) : List (List UInt8) :=
  rests.foldr (fun r kept => if kept.any fun k => k.length = r.length then kept else r :: kept) []

mutual

/-- Whether a part stands for nothing because it has empty branches only. -/
def isVoid : GlobPart → Bool
  | .alternatives branches => areVoid branches
  | _ => false

/-- Whether parts stand for nothing. -/
def allVoid : List GlobPart → Bool
  | [] => true
  | p :: rest => isVoid p && allVoid rest

/-- Whether all branches stand for nothing. -/
def areVoid : List (List GlobPart) → Bool
  | [] => true
  | b :: rest => allVoid b && areVoid rest

end

mutual

/-- What may be left of some bytes after a part. -/
def rests (cs : List UInt8) : GlobPart → List (List UInt8)
  | .literal c => afterBytes (charBytes c) cs
  | .any => afterByte (fun _ => true) cs
  | .star => tails cs
  | .leadingStars => cs :: afterSlashes cs
  | .trailingStars => (afterByte (· == slash) cs).flatMap tails
  | .innerStars => (afterByte (· == slash) cs).flatMap fun rest => rest :: afterSlashes rest
  | .oneOf negated ranges => afterByte (fun b => inByteRanges (ranges.flatMap byteRanges) b != negated) cs
  | .alternatives branches => if areVoid branches then [cs] else restsOfAny cs branches

/-- What may be left of one of some texts after parts. -/
def restsOfAll (css : List (List UInt8)) : List GlobPart → List (List UInt8)
  | [] => css
  | p :: ps => restsOfAll (distinct (css.flatMap fun cs => rests cs p)) ps

/-- What may be left of some bytes after one of some branches. -/
def restsOfAny (cs : List UInt8) : List (List GlobPart) → List (List UInt8)
  | [] => []
  | b :: bs => (if allVoid b then [] else restsOfAll [cs] b) ++ restsOfAny cs bs

end

/-- Whether a glob is two stars and nothing else, which stand for everything. -/
def isEverything (g : Glob) : Bool :=
  match g.parts with
  | [.leadingStars] => true
  | _ => false

/-- The character that a part stands for, if it is one. -/
def literal? : GlobPart → Option Char
  | .literal c => some c
  | _ => none

/-- Parts without the first one, if that is `p`. -/
def withoutFirst (p : GlobPart → Bool) : List GlobPart → List GlobPart
  | [] => []
  | q :: rest => if p q then rest else q :: rest

/-- Whether a glob that ends with a period asks for a name: two stars and a name, a star and a period, or
anything that is more than one star and a text. -/
def asksForName (g : Glob) : Bool :=
  let body := withoutFirst (fun | .leadingStars => true | _ => false) g.parts
  let tail := withoutFirst (fun | .star => true | _ => false) body
  if g.parts.getLast?.bind literal? != some '.' then
    false
  else if tail.all fun p => (literal? p).isSome then
    if tail.length < body.length then tail.length = 1
    else body.length < g.parts.length && tail.all fun p => literal? p != some '/'
  else
    true

/-- Whether the last component of a path is `..`, which leads to the directory above and is no name. -/
def isNameless (path : String) : Bool :=
  path.toList.reverse.takeWhile (· != '/') == ['.', '.']

def isMatch (g : Glob) (path : String) : Bool :=
  g.isEverything || (!(g.asksForName && isNameless path) &&
    (restsOfAll [bytesOf path] g.parts).any List.isEmpty)

end Glob

end DocLint
