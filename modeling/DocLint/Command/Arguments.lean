/-!
# The command line

A command line names a command with its options. Options may stand anywhere behind the command; the path
of the configuration and the wish for more output may also stand before it. After two hyphens everything
is taken as it stands.
-/

namespace DocLint

set_option autoImplicit false

inductive ReportFormat where
  | text
  | json
  deriving DecidableEq, Repr

/-- What is to be done. -/
inductive Command where
  /-- Lints the files that patterns select. -/
  | lint (patterns : List String) (format : ReportFormat) (timings : Bool)
  /-- Lists the rules. -/
  | rules
  /-- Writes a new configuration, over an old one if forced. -/
  | init (force : Bool)
  deriving DecidableEq, Repr

/-- What a command line asks for. -/
inductive Request where
  | run (command : Command) (config : Option String)
  | version
  | help
  | invalid
  deriving DecidableEq, Repr

namespace Arguments

inductive OptionName where
  | config
  | verbose
  | format
  | timings
  | force
  | help
  | version
  deriving DecidableEq, Repr

/-- The places in which options may stand. -/
inductive Place where
  | top
  | lint
  | rules
  | init
  deriving DecidableEq, Repr

/-- The options of a place, with the letters that stand for them. -/
def optionsOf : Place → List (OptionName × String × Option Char)
  | .top => [(.version, "version", some 'V')] ++ everywhere
  | .lint => [(.format, "format", some 'f'), (.timings, "timings", none)] ++ everywhere
  | .rules => everywhere
  | .init => [(.force, "force", none)] ++ everywhere
where
  /-- The options of every place. -/
  everywhere : List (OptionName × String × Option Char) :=
    [(.config, "config", some 'c'), (.verbose, "verbose", some 'v'), (.help, "help", some 'h')]

def hasValue (o : OptionName) : Bool :=
  o = .config || o = .format

/-- What has been read in one place. -/
structure Draft where
  /-- The options with their values. -/
  options : List (OptionName × String)
  /-- What is no option, in order. -/
  operands : List String

namespace Draft

/-- Nothing has been read. -/
def empty : Draft :=
  ⟨[], []⟩

/-- Whether an option was given. -/
def has (d : Draft) (o : OptionName) : Bool :=
  d.options.any fun e => e.1 = o

def value? (d : Draft) (o : OptionName) : Option String :=
  (d.options.find? fun e => e.1 = o).map (·.2)

end Draft

/-- Why the arguments of a place are not read to their end. -/
inductive Exit where
  | version
  | help
  | invalid

/-- Whether a value may be given to an option. -/
def validValue (o : OptionName) (value : String) : Bool :=
  match o with
  | .config => value != ""
  | .format => value == "text" || value == "json"
  | _ => true

/-- Adds an option. Each may be given once. -/
def addOption (d : Draft) (o : OptionName) (value : String) : Except Exit Draft :=
  match o with
  | .help => .error .help
  | .version => .error .version
  | o =>
    if d.has o || !validValue o value then .error .invalid
    else .ok { d with options := d.options ++ [(o, value)] }

/-- Whether an argument looks like an option. -/
def isOption (argument : String) : Bool :=
  match argument.toList with
  | '-' :: _ :: _ => true
  | _ => false

/-- A value that stands in the next argument. -/
def nextValue : List String → Except Exit (String × List String)
  | [] => .error .invalid
  | a :: rest => if isOption a then .error .invalid else .ok (a, rest)

/-- Reads an option that is written out, after its hyphens. -/
def readLong (place : Place) (d : Draft) (name : List Char) (rest : List String) :
    Except Exit (Draft × List String) :=
  let key := String.ofList (name.takeWhile (· != '='))
  let attached := match name.dropWhile (· != '=') with
    | _ :: value => some (String.ofList value)
    | [] => none
  match (optionsOf place).find? fun e => e.2.1 == key with
  | none => .error .invalid
  | some (o, _) =>
    match hasValue o, attached with
    | true, some value => (addOption d o value).map fun d => (d, rest)
    | true, none => do
      let (value, rest) ← nextValue rest
      let d ← addOption d o value
      return (d, rest)
    | false, some _ => .error .invalid
    | false, none => (addOption d o "").map fun d => (d, rest)

/-- Reads the letters of one argument. A letter with a value takes the rest of the argument. -/
def readLetters (place : Place) (d : Draft) (rest : List String) :
    List Char → Except Exit (Draft × List String)
  | [] => .ok (d, rest)
  | c :: letters =>
    match (optionsOf place).find? fun e => e.2.2 == some c with
    | none => .error .invalid
    | some (o, _) =>
      if hasValue o then
        match letters with
        | [] => do
          let (value, rest) ← nextValue rest
          let d ← addOption d o value
          return (d, rest)
        | '=' :: value => (addOption d o (String.ofList value)).map fun d => (d, rest)
        | value => (addOption d o (String.ofList value)).map fun d => (d, rest)
      else
        match addOption d o "" with
        | .error e => .error e
        | .ok d => readLetters place d rest letters

/-- Reads the arguments of a place. At the top the first operand ends them. Every step takes an argument, so
their number bounds the steps. -/
def read (place : Place) : Nat → Draft → List String → Except Exit (Draft × List String)
  | 0, d, rest => .ok (d, rest)
  | _, d, [] => .ok (d, [])
  | fuel + 1, d, a :: rest =>
    match a.toList with
    | ['-', '-'] =>
      if place = .top then .error .invalid
      else .ok ({ d with operands := d.operands ++ rest }, [])
    | '-' :: '-' :: name => do
      let (d, rest) ← readLong place d name rest
      read place fuel d rest
    | '-' :: c :: letters => do
      let (d, rest) ← readLetters place d rest (c :: letters)
      read place fuel d rest
    | _ =>
      if place = .top then .ok (d, a :: rest)
      else read place fuel { d with operands := d.operands ++ [a] } rest

def placeOf? (name : String) : Option Place :=
  [("lint", Place.lint), ("rules", .rules), ("init", .init)].lookup name

def commandOf? (place : Place) (d : Draft) : Option Command :=
  match place with
  | .top => none
  | .lint =>
    if d.operands.isEmpty then none
    else
      let format := if d.value? .format == some "json" then ReportFormat.json else .text
      some (.lint d.operands format (d.has .timings))
  | .rules => if d.operands.isEmpty then some .rules else none
  | .init => if d.operands.isEmpty then some (.init (d.has .force)) else none

/-- Reads a command line. -/
def readAll (arguments : List String) : Except Exit Request := do
  let (top, rest) ← read .top arguments.length .empty arguments
  match rest with
  | [] => throw .invalid
  | name :: rest =>
    match placeOf? name with
    | none => throw (if name == "help" then .help else .invalid)
    | some place =>
      let (d, _) ← read place rest.length .empty rest
      match commandOf? place d with
      | some command => return .run command ((d.value? .config).or (top.value? .config))
      | none => throw .invalid

/-- What a command line asks for. -/
def parse (arguments : List String) : Request :=
  match readAll arguments with
  | .ok request => request
  | .error .version => .version
  | .error .help => .help
  | .error .invalid => .invalid

end Arguments

end DocLint
