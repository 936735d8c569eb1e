import TransformPreset.Command.Line

/-!
# The help page

The help page names the commands and, for each of them, the options that it takes.
-/

namespace TransformPreset

/-- The forms of an option: its letter, if it has one, and its long name. -/
def OptionTag.forms (tag : OptionTag) : String :=
  let letter := (tag.letter?.map fun c => String.ofList ['-', c, ',', ' ']).getD ""
  letter ++ tag.longName ++ (if tag.takesValue then " VALUE" else "")

/-- The commands with their names. -/
def commandForms : List (String × CommandName) :=
  [("resolve, r", .resolve), ("targets, tg", .targets), ("list, ls", .list)]

/-- The lines of the help page. -/
def helpLines : List String :=
  "Usage: envpreset COMMAND [OPTION]..." ::
    commandForms.flatMap fun (names, command) =>
      "" :: names :: command.options.map fun tag => "  " ++ tag.forms

end TransformPreset
