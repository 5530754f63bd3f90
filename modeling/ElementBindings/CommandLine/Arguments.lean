import ElementBindings.CommandLine.Usage
import ElementBindings.Json.Printer
import ElementBindings.Path.Basic

/-!
# CommandLine/Arguments — reading arguments

Switches stand before or behind the command they belong to.  A switch with two hyphens has its value
behind an equals sign or in the next argument, a letter may also have it right behind, and letters
may be given together.  No switch is given twice and no value is empty.  An argument of two hyphens
says that no more switches follow, and since no command takes words of its own, it comes last.
-/

namespace ElementBindings.CommandLine

/-! ## Arguments -/

/-- What an argument is by its form. -/
inductive Argument where
  | word (s : String)
  | long (name : String) (value : Option String)
  | letters (cs : List Char)
  | endOfSwitches
deriving DecidableEq, Repr

/-- The form of an argument; a hyphen on its own is a word. -/
def Argument.of (s : String) : Argument :=
  match s.toList with
  | ['-', '-'] => endOfSwitches
  | '-' :: '-' :: cs =>
    let name := String.ofList (cs.takeWhile (· != '='))
    match cs.dropWhile (· != '=') with
    | _ :: value => long name (some (String.ofList value))
    | [] => long name none
  | '-' :: c :: cs => letters (c :: cs)
  | _ => word s

/-! ## Switches that are given -/

/-- Why no command is carried out. -/
inductive Stop where
  /-- there is a text to be shown instead -/
  | shown (text : String)
  | rejected
deriving DecidableEq, Repr

/-- The switches given so far. -/
structure Given where
  /-- the names of switches with their values, which are empty for marks -/
  settled : List (String × String)
  /-- a switch whose value stands, or is to stand, in an argument of its own -/
  pending : Option (Switch × Option String)
deriving Inhabited, Repr

namespace Given

/-- No switches. -/
def nothing : Given := ⟨[], none⟩

/-- Adds a switch with its value, which must not have been given yet. -/
def add (g : Given) (s : Switch) (v : String) : Except Stop Given :=
  if g.settled.any (·.1 == s.name) || s.takesValue && v.isEmpty then .error .rejected
  else .ok { g with settled := g.settled ++ [(s.name, v)] }

/-- Adds the switch that is pending, whose value has to stand by now. -/
def settle (g : Given) : Except Stop Given :=
  match g.pending with
  | none => .ok g
  | some (s, some v) => { g with pending := none }.add s v
  | some (_, none) => .error .rejected

/-- Adds a switch, with its value if the argument has one. -/
def give (u : Usage) (g : Given) (s : Switch) (value : Option String) : Except Stop Given := do
  let g ← g.settle
  match s.effect, value with
  | .help, none => throw (.shown u.help)
  | .version, none => throw (.shown (version ++ "\n"))
  | .mark, none => g.add s ""
  | .value .., some v => g.add s v
  | .value .., none => return { g with pending := some (s, none) }
  | _, some _ => throw .rejected

/-- Adds the switch with a name. -/
def giveLong (u : Usage) (g : Given) (name : String) (value : Option String) : Except Stop Given :=
  match u.switches.find? (·.name == name) with
  | some s => g.give u s value
  | none => .error .rejected

/-- The value behind a letter, which an equals sign may set off. -/
def valueBehind : List Char → Option String
  | [] => none
  | '=' :: cs => some (String.ofList cs)
  | cs => some (String.ofList cs)

/-- Adds the switches with the letters given; the letters behind one that takes a value are its
value. -/
def giveLetters (u : Usage) (g : Given) : List Char → Except Stop Given
  | [] => .ok g
  | c :: cs =>
    match u.switches.find? (·.letter == some c) with
    | some s =>
      if s.takesValue then g.give u s (valueBehind cs)
      else match g.give u s none with
        | .ok g => giveLetters u g cs
        | .error e => .error e
    | none => .error .rejected

/-- Reads arguments up to the first word that is no value, which is returned with what follows. -/
def read (u : Usage) (g : Given) : List String → Except Stop (Given × Option (String × List String))
  | [] => .ok (g, none)
  | a :: as =>
    match Argument.of a with
    | .endOfSwitches => if as.isEmpty then .ok (g, none) else .error .rejected
    | .long name value =>
      match g.giveLong u name value with
      | .ok g => read u g as
      | .error e => .error e
    | .letters cs =>
      match g.giveLetters u cs with
      | .ok g => read u g as
      | .error e => .error e
    | .word s =>
      match g.pending with
      | some (switch, none) => read u { g with pending := some (switch, some s) } as
      | _ => .ok (g, some (s, as))

/-- Whether a mark is given. -/
def has (g : Given) (name : String) : Bool := (g.settled.lookup name).isSome

/-- The path that a switch gives. -/
def path? (g : Given) (name : String) : Option Path := (g.settled.lookup name).map (⟨·⟩)

end Given

/-! ## Commands -/

/-- A command with what it is given. -/
inductive Command where
  /-- writes a project file, also over one that is there -/
  | init (overwrite : Bool)
  /-- prints the manifest -/
  | manifest (layout : Json.Layout)
  /-- writes declarations, and the wrapper module to a file of its own -/
  | generate (wrapper : Option Path)
  | watch (wrapper : Option Path)
deriving DecidableEq, Inhabited, Repr

/-- A command for the project of a project file. -/
structure Invocation where
  config : Path
  verbose : Bool
  command : Command
deriving DecidableEq, Inhabited, Repr

/-- The command of a word and the switches behind it. -/
def Command.ofGiven (g : Given) : Verb → Command
  | .init => .init (g.has "yes")
  | .manifest => .manifest (if g.has "pretty" then .indented else .compact)
  | .generate => .generate (g.path? "wrapper")
  | .watch => .watch (g.path? "wrapper")

/-- Reads the arguments behind the word for a command. -/
def Command.read (v : Verb) (args : List String) : Except Stop Command := do
  match ← Given.nothing.read v.usage args with
  | (g, none) => return ofGiven (← g.settle) v
  | (_, some _) => throw .rejected

/-- What is shown for the words behind the word for help. -/
def helpFor : List String → Stop
  | [] => .shown usage.help
  | [s] =>
    if s = helpWord then .shown helpUsage.help
    else match Verb.ofWord? s with
      | some v => .shown v.usage.help
      | none => .rejected
  | _ => .rejected

/-- **Reads arguments.** -/
def Invocation.read (args : List String) : Except Stop Invocation := do
  match ← Given.nothing.read usage args with
  | (_, none) => throw .rejected
  | (g, some (s, rest)) =>
    if s = helpWord then throw (helpFor rest)
    match Verb.ofWord? s with
    | none => throw .rejected
    | some v =>
      let command ← Command.read v rest
      let g ← g.settle
      return ⟨(g.path? "config").getD ⟨defaultConfig⟩, g.has "verbose", command⟩

end ElementBindings.CommandLine
