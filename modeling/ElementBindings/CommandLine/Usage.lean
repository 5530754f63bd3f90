/-!
# CommandLine/Usage — the commands and their switches

A `Usage` says what a command is for and what may be given to it.  The arguments are read by it and
the help texts are written from it, so the two cannot disagree.
-/

namespace ElementBindings.CommandLine

/-! ## Switches -/

/-- What a switch does. -/
inductive Effect where
  /-- it stands for itself -/
  | mark
  /-- it takes a value, which has a name, and another value in its place when it is not given -/
  | value (name : String) (fallback : Option String)
  /-- the help text is shown -/
  | help
  /-- the version is shown -/
  | version
deriving DecidableEq, Inhabited, Repr

/-- A switch of a command. -/
structure Switch where
  /-- the letter behind one hyphen -/
  letter : Option Char
  /-- the name behind two hyphens -/
  name : String
  about : String
  effect : Effect
deriving DecidableEq, Inhabited, Repr

/-- Whether a switch takes a value. -/
def Switch.takesValue (s : Switch) : Bool :=
  match s.effect with
  | .value .. => true
  | _ => false

/-- How a switch is given. -/
def Switch.form (s : Switch) : String :=
  let letter := match s.letter with
    | some c => "-" ++ String.singleton c ++ ", "
    | none => "    "
  let value := match s.effect with
    | .value name _ => " <" ++ name ++ ">"
    | _ => ""
  letter ++ "--" ++ s.name ++ value

/-- What a switch is for, and what it is when it is not given. -/
def Switch.description (s : Switch) : String :=
  match s.effect with
  | .value _ (some fallback) => s.about ++ " [default: " ++ fallback ++ "]"
  | _ => s.about

/-! ## Usages -/

/-- What may be given to a command. -/
structure Usage where
  /-- the words that lead to the command -/
  title : String
  about : String
  /-- what follows the title, in short -/
  pattern : String
  /-- the commands below this one, with what they are for -/
  commands : List (String × String)
  /-- the words it takes, with what they are for -/
  operands : List (String × String)
  switches : List Switch
deriving Inhabited, Repr

/-- A text with spaces behind it up to a width. -/
def padded (width : Nat) (s : String) : String :=
  s ++ String.ofList (List.replicate (width - s.length) ' ')

/-- A section of a help text: what can be given, and what it is for, side by side. -/
def helpSection (heading : String) (rows : List (String × String)) : String :=
  let width := (rows.map (·.1.length)).foldl max 0
  let line (row : String × String) : String := "  " ++ padded width row.1 ++ "  " ++ row.2 ++ "\n"
  if rows.isEmpty then "" else "\n" ++ heading ++ ":\n" ++ String.join (rows.map line)

/-- The line that shows how a command is given. -/
def Usage.line (u : Usage) : String := "Usage: " ++ u.title ++ " " ++ u.pattern ++ "\n"

/-- **The help text of a command.** -/
def Usage.help (u : Usage) : String :=
  u.about ++ "\n\n" ++ u.line ++ helpSection "Commands" u.commands
    ++ helpSection "Arguments" u.operands
    ++ helpSection "Options" (u.switches.map fun s => (s.form, s.description))

/-! ## The commands -/

/-- The commands that do something. -/
inductive Verb where
  | init
  | manifest
  | generate
  | watch
deriving DecidableEq, Inhabited, Repr

namespace Verb

/-- All commands. -/
def all : List Verb := [init, manifest, generate, watch]

/-- The word for a command. -/
def word : Verb → String
  | init => "init"
  | manifest => "manifest"
  | generate => "generate"
  | watch => "watch"

/-- What a command is for. -/
def about : Verb → String
  | init => "Write a default facade.toml"
  | manifest => "Print the component manifest as JSON"
  | generate => "Generate the wrapper module and write declarations"
  | watch => "Regenerate whenever sources change"

/-- The switch for the help text. -/
def helpSwitch : Switch := ⟨some 'h', "help", "Print help", .help⟩

/-- The switches that a command has of its own. -/
def switches : Verb → List Switch
  | init => [⟨some 'y', "yes", "Overwrite an existing config", .mark⟩]
  | manifest => [⟨none, "pretty", "Pretty-print the JSON", .mark⟩]
  | generate | watch =>
    [⟨some 'w', "wrapper", "Also write the wrapper module to this file", .value "WRAPPER" none⟩]

/-- The command that a word stands for. -/
def ofWord? (s : String) : Option Verb := all.find? (·.word == s)

/-- What may be given to a command. -/
def usage (v : Verb) : Usage where
  title := "facade " ++ v.word
  about := v.about
  pattern := "[OPTIONS]"
  commands := []
  operands := []
  switches := v.switches ++ [helpSwitch]

/-- Every command has a word of its own. -/
theorem ofWord?_word (v : Verb) : ofWord? v.word = some v := by cases v <;> decide

end Verb

/-- The word for the command that shows help texts. -/
def helpWord : String := "help"

/-- What the command that shows help texts is for. -/
def helpAbout : String := "Print this message or the help of the given subcommand(s)"

/-- What may be given to the command that shows help texts. -/
def helpUsage : Usage where
  title := "facade help"
  about := helpAbout
  pattern := "[COMMAND]..."
  commands := []
  operands := [("[COMMAND]...", "Print help for the subcommand(s)")]
  switches := []

/-- The project file that is read when no other is named. -/
def defaultConfig : String := "facade.toml"

/-- What may be given before a command. -/
def usage : Usage where
  title := "facade"
  about := "Generate React wrappers and type declarations for custom elements"
  pattern := "[OPTIONS] <COMMAND>"
  commands := Verb.all.map (fun v => (v.word, v.about)) ++ [(helpWord, helpAbout)]
  operands := []
  switches :=
    [⟨some 'c', "config", "Path to facade.toml config file", .value "CONFIG" (some defaultConfig)⟩,
      ⟨some 'v', "verbose", "Enable verbose output", .mark⟩,
      Verb.helpSwitch,
      ⟨some 'V', "version", "Print version", .version⟩]

/-- The name and the version of the program. -/
def version : String := "facade 0.1.0"

end ElementBindings.CommandLine
