import TransformPreset.Text.Pieces
import TransformPreset.Trace

/-!
# Command line arguments

How the arguments of a command are read as options. A long option takes its value from the same
argument after an equals sign, or from the next argument; short options may be run together, and the
first that takes a value takes the rest of the argument or the next one. A value may look like an
option. Two dashes end the options.
-/

namespace TransformPreset

/-- What an option asks for. -/
inductive OptionTag
  /-- The help page. -/
  | help
  /-- The settings file. -/
  | config
  /-- A target. -/
  | target
  /-- A name to include. -/
  | included
  /-- A name to exclude. -/
  | excluded
  /-- Polyfills, or none. -/
  | useBuiltIns (on : Bool)
  /-- The module type. -/
  | moduleType
  /-- Loose transformations, or strict ones. -/
  | loose (on : Bool)
  /-- The debug report, or none. -/
  | debug (on : Bool)
  /-- A bundle of units. -/
  | plugin
  /-- JSON in place of tables. -/
  | json
  /-- No colours. -/
  | noColor
  /-- The least level of log entries. -/
  | logLevel
deriving DecidableEq

namespace OptionTag

/-- Whether an option takes a value. -/
def takesValue : OptionTag → Bool
  | .config | .target | .included | .excluded | .moduleType | .plugin | .logLevel => true
  | _ => false

/-- The long name of an option. -/
def longName : OptionTag → String
  | .help => "--help"
  | .config => "--config"
  | .target => "--target"
  | .included => "--include"
  | .excluded => "--exclude"
  | .useBuiltIns on => if on then "--use-built-ins" else "--no-use-built-ins"
  | .moduleType => "--module-type"
  | .loose on => if on then "--loose" else "--no-loose"
  | .debug on => if on then "--debug" else "--no-debug"
  | .plugin => "--plugin"
  | .json => "--json"
  | .noColor => "--no-color"
  | .logLevel => "--log-level"

/-- The letter of an option, if it has one. -/
def letter? : OptionTag → Option Char
  | .help => some 'h'
  | .config => some 'c'
  | .target => some 't'
  | .included => some 'i'
  | .excluded => some 'x'
  | .moduleType => some 'm'
  | .plugin => some 'p'
  | .json => some 'j'
  | .noColor => some 'n'
  | .logLevel => some 'l'
  | _ => none

end OptionTag

/-- An option that was given, with its value if it takes one. -/
structure GivenOption where
  /-- The option. -/
  tag : OptionTag
  /-- Its value, or nothing. -/
  value : String
deriving DecidableEq

/-- What one argument gives. -/
inductive ArgumentReading
  /-- Options, all of them complete. -/
  | complete (given : List GivenOption)
  /-- Options, and one whose value is the next argument. -/
  | wanting (given : List GivenOption) (tag : OptionTag)
  /-- No options of the command. -/
  | refused

/-- The reading with an option before all others. -/
def ArgumentReading.after (first : GivenOption) : ArgumentReading → ArgumentReading
  | .complete given => .complete (first :: given)
  | .wanting given tag => .wanting (first :: given) tag
  | .refused => .refused

/-- Reads a long option, with a value after an equals sign if there is one. -/
def readLong (tag : OptionTag) : (attached? : Option (List Char)) → ArgumentReading
  | some value =>
    if tag.takesValue then .complete [⟨tag, String.ofList value⟩] else .refused
  | none => if tag.takesValue then .wanting [] tag else .complete [⟨tag, ""⟩]

/-- Reads letters that are run together. -/
def readLetters (options : List OptionTag) : List Char → ArgumentReading
  | [] => .complete []
  | letter :: rest =>
    match options.find? fun tag => tag.letter? == some letter with
    | none => .refused
    | some tag =>
      if tag.takesValue then
        -- The rest of the letters is the value, an equals sign included.
        if rest.isEmpty then .wanting [] tag else .complete [⟨tag, String.ofList rest⟩]
      else (readLetters options rest).after ⟨tag, ""⟩

/-- Reads an argument that starts with a dash. -/
def readOption (options : List OptionTag) (argument : String) : ArgumentReading :=
  let (name, attached?) := partitionAt '=' argument.toList
  match options.find? fun tag => tag.longName.toList == name with
  | some tag => readLong tag attached?
  | none =>
    match argument.toList with
    | '-' :: '-' :: _ => .refused
    | _ :: letters => readLetters options letters
    | [] => .refused

/-- Whether an argument has the form of options: a dash and something after it. -/
def looksLikeOption (argument : String) : Bool :=
  match argument.toList with
  | '-' :: _ :: _ => true
  | _ => false

/-- Reads arguments up to two dashes or, unless options may follow it, the first one that is no
option: the options, and the arguments that are none. Nothing is read if an argument is refused or a
value is missing. -/
def readArguments (options : List OptionTag) (interspersed : Bool) :
    List String → Option (List GivenOption × List String)
  | [] => some ([], [])
  | argument :: rest =>
    -- What follows is no option, whatever it looks like.
    if argument = "--" then some ([], rest)
    else if looksLikeOption argument then
      match readOption options argument with
      | .refused => none
      | .complete given => do
        let (more, others) ← readArguments options interspersed rest
        some (given ++ more, others)
      | .wanting given tag =>
        match rest with
        | [] => none
        | value :: after => do
          let (more, others) ← readArguments options interspersed after
          some (given ++ ⟨tag, value⟩ :: more, others)
    else if interspersed then do
      let (given, others) ← readArguments options interspersed rest
      some (given, argument :: others)
    else some ([], argument :: rest)

end TransformPreset
