import DocLint.Markdown.CharacterReference
import DocLint.Text.Blank
import DocLint.Text.Property

/-!
# Addresses that are links by themselves

An address between angle brackets is a link, and so are addresses that begin with `http://`,
`https://` or `www.`, and mail addresses, without any marks. The readers give numbers of characters.
-/

namespace DocLint.Markdown

set_option autoImplicit false

/-- Three classes of characters decide where emphasis and addresses begin and end. -/
inductive CharacterClass where
  | white
  | punctuation
  | other
  deriving DecidableEq, Repr

/-- The class of a character; the ends of the source count as white space. -/
def classOf : Option Char → CharacterClass
  | none => .white
  | some c =>
    if Text.isWhite c then .white else if Text.isPunctuation c then .punctuation else .other

/-! ## Between angle brackets -/

/-- Characters of a mail address before the at sign. -/
def isMailChar (c : Char) : Bool :=
  isAsciiAlphanumeric c || "!#$%&'*+-./=?^_`\x7b|\x7d~".toList.contains c

/-- Reads the domain of a mail address up to the closing angle bracket; `size` characters of the current
part were read, and `dash` tells that the last of them was a dash. -/
def mailDomain? (size : Nat) (dash : Bool) (n : Nat) : List Char → Option Nat
  | [] => none
  | c :: rest =>
    if 0 < size && !dash && c == '.' then mailDomain? 0 false (n + 1) rest
    else if 0 < size && !dash && c == '>' then some (n + 1)
    else if size < 63 && (isAsciiAlphanumeric c || (0 < size && c == '-')) then
      mailDomain? (size + 1) (c == '-') (n + 1) rest
    else none

/-- Reads a mail address up to the closing angle bracket; `used` characters of its domain count as read
before. -/
def mailLength? (used n : Nat) : List Char → Option Nat
  | [] => none
  | c :: rest =>
    if c == '@' then
      if rest.head?.any isAsciiAlphanumeric then mailDomain? used false (n + 1) rest else none
    else if isMailChar c then mailLength? used (n + 1) rest
    else none

/-- Reads an address after its scheme up to the closing angle bracket. -/
def addressLength? (n : Nat) : List Char → Option Nat
  | [] => none
  | c :: rest =>
    if c == '>' then some (n + 1)
    else if c.toNat < 32 || c.toNat == 127 || c == ' ' || c == '<' then none
    else addressLength? (n + 1) rest

/-- Characters of a scheme after the first. -/
def isSchemeChar (c : Char) : Bool :=
  isAsciiAlphanumeric c || c == '+' || c == '-' || c == '.'

/-- The length of the address between angle brackets that a text begins with, brackets included. A
scheme has from 2 to 32 characters. `used` characters of a domain count as read before, unless two
characters look like a scheme. -/
def autolinkLength? (used : Nat) : List Char → Option Nat
  | '<' :: c :: rest =>
    let scheme := rest.takeWhile isSchemeChar
    let after := rest.drop scheme.length
    if isAsciiAlpha c && after.head? == some ':' && 1 ≤ scheme.length && scheme.length ≤ 31 then
      addressLength? (scheme.length + 3) (after.drop 1)
    else if c == '@' then none
    else mailLength? (if isAsciiAlpha c && !scheme.isEmpty then 0 else used) 1 (c :: rest)
  | _ => none

/-- How many of `used` characters are left after a text that begins with an angle bracket but with no
address: none when it looks like a scheme or a domain. -/
def autolinkUsed (used : Nat) : List Char → Nat
  | '<' :: c :: rest =>
    let beginsScheme := isAsciiAlpha c && rest.head?.any isSchemeChar
    let beginsDomain := match (c :: rest).dropWhile isMailChar with
      | '@' :: d :: _ => c != '@' && isAsciiAlphanumeric d
      | _ => false
    if beginsScheme || beginsDomain then 0 else used
  | _ => used

/-! ## Without marks -/

/-- What is expected of the characters after an address. -/
inductive Trail where
  | plain
  /-- After the ampersand of a character reference. -/
  | reference
  /-- After a letter of a character reference. -/
  | referenceName
  /-- After a closing bracket. -/
  | bracket
  deriving DecidableEq, Repr

/-- Punctuation that does not belong to an address when nothing but more of it follows. -/
def isTrailing (c : Char) : Bool :=
  "!\"')*,.:;?_~".toList.contains c

/-- Whether only trailing punctuation stands before white space, a link, or the end, unless that is
`blocked`; after a bracket it never is. -/
def isTrail (blocked : Bool) (trail : Trail) : List Char → Bool
  | [] => (trail == .plain && !blocked) || trail == .bracket
  | c :: rest =>
    let plain :=
      if isTrailing c then isTrail blocked .plain rest
      else if c == '&' then isTrail blocked .reference rest
      else if c == '<' then true
      else if c == ']' then isTrail blocked .bracket rest
      else Text.isWhite c
    match trail with
    | .plain => plain
    | .reference => isAsciiAlpha c && isTrail blocked .referenceName rest
    | .referenceName =>
      if isAsciiAlpha c then isTrail blocked .referenceName rest
      else c == ';' && isTrail blocked .plain rest
    | .bracket =>
      if c == ' ' || c == '\t' || c == '\n' || c == '(' || c == '[' then true else plain

/-- The length of a domain; `last` and `before` tell of an underscore in its last part and in the part
before, where none is allowed, and `seen` that it holds anything but punctuation. -/
def domainLength? (blocked last before seen : Bool) (n : Nat) : List Char → Option Nat
  | [] => if last || before || !seen then none else some n
  | c :: rest =>
    let stop := if last || before || !seen then none else some n
    if c == '.' || c == '_' then
      if isTrail blocked .plain (c :: rest) then stop
      else if c == '_' then domainLength? blocked true before seen (n + 1) rest
      else domainLength? blocked false last seen (n + 1) rest
    else if c == '-' then domainLength? blocked last before seen (n + 1) rest
    else if classOf (some c) = .other then domainLength? blocked last before true (n + 1) rest
    else stop

/-- The length of what follows a domain; `opened` and `closed` count parentheses. -/
def pathLength (blocked : Bool) (opened closed n : Nat) : List Char → Nat
  | [] => n
  | c :: rest =>
    if c == '(' then pathLength blocked (opened + 1) closed (n + 1) rest
    else if isTrailing c || c == '&' || c == '<' || c == ']' then
      if isTrail blocked .plain (c :: rest) && !(c == ')' && closed < opened) then n
      else pathLength blocked opened (if c == ')' then closed + 1 else closed) (n + 1) rest
    else if Text.isWhite c then n
    else pathLength blocked opened closed (n + 1) rest

/-- The length of a domain and what follows it, after `n` characters. `blocked` tells that the text ends at
a pipe: punctuation before that belongs to the address. -/
def domainAndPath? (blocked : Bool) (n : Nat) (cs : List Char) : Option Nat :=
  (domainLength? blocked false false false 0 cs).map fun d =>
    n + pathLength blocked 0 0 d (cs.drop d)

/-- What follows a protocol and its colon at the begin of a text, and the length of these. It does not
begin right after a letter. -/
def protocol? (previous : Option Char) (cs : List Char) : Option (Nat × List Char) :=
  let name := (cs.takeWhile isAsciiAlpha).map Char.toLower
  if previous.any isAsciiAlpha || (name != "http".toList && name != "https".toList) then
    none
  else
    match cs.drop name.length with
    | ':' :: rest => some (name.length + 1, rest)
    | _ => none

/-- The length of the address with a protocol that a text begins with. Of the two slashes one counts as
read before if anything was `used`. -/
def protocolLength? (blocked : Bool) (used : Nat) (previous : Option Char) (cs : List Char) :
    Option Nat :=
  (protocol? previous cs).bind fun (n, rest) =>
    match rest with
    | '/' :: rest =>
      if used ≠ 0 then
        domainAndPath? blocked (n + 1) rest
      else
        match rest with
        | '/' :: rest => domainAndPath? blocked (n + 2) rest
        | _ => none
    | _ => none

/-- Characters that an address without a protocol may follow. -/
def precedesWww (c : Char) : Bool :=
  "\t\n (*_[]~".toList.contains c

/-- The length of the address beginning with `www.` that a text begins with, `used` of these letters being
read before. -/
def wwwLength? (blocked : Bool) (used : Nat) (previous : Option Char) (cs : List Char) : Option Nat :=
  let letters := (cs.takeWhile fun c => c == 'w' || c == 'W').length
  match cs.drop letters with
  | '.' :: _ :: _ =>
    if previous.all precedesWww && used + letters = 3 then domainAndPath? blocked 0 cs else none
  | _ => none

/-! ## Mail addresses without marks -/

/-- Characters of a mail address before the at sign, without marks. -/
def isPlainMailChar (c : Char) : Bool :=
  isAsciiAlphanumeric c || c == '+' || c == '-' || c == '.' || c == '_'

/-- The length of a domain of a mail address: it has a dot, and ends in a letter or a dot. -/
def plainMailDomain? (slashes dot : Bool) (last : Option Char) (n : Nat) : List Char → Option Nat
  | [] => if dot && last.any (fun c => isAsciiAlpha c || c == '.') then some n else none
  | c :: rest =>
    if isAsciiAlphanumeric c || c == '-' || c == '_' || (slashes && c == '/') then
      plainMailDomain? slashes dot (some c) (n + 1) rest
    else if c == '.' && rest.head?.any isAsciiAlphanumeric then
      plainMailDomain? slashes true (some c) (n + 1) rest
    else if dot && last.any (fun c => isAsciiAlpha c || c == '.') then some n
    else none

/-- A mail address around an at sign, given the characters before it, nearest first, and those after
it: the numbers of characters before and after the at sign. -/
def plainMail? (back rest : List Char) : Option (Nat × Nat) :=
  let name := back.takeWhile isPlainMailChar
  let before := back.drop name.length
  if name.isEmpty || before.head? == some '/' then
    none
  else
    let scheme := match before with
      | ':' :: more => ((more.takeWhile isAsciiAlphanumeric).map Char.toLower).reverse
      | _ => []
    let isXmpp := scheme == "xmpp".toList
    let prefixed := if isXmpp || scheme == "mailto".toList then scheme.length + 1 else 0
    (plainMailDomain? isXmpp false none 0 rest).map fun n => (name.length + prefixed, n)

end DocLint.Markdown
