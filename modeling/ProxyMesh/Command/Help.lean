import ProxyMesh.Command.Grammar
import ProxyMesh.Text.Lines

/-!
# Help texts

Lines have at most 100 characters, unless a single word is longer.  A full text puts every
description below its option, a short one beside it; only a command with a description of several
paragraphs has a full text of its own.

* `wrap`        a text cut into lines between words;
* `helpText`    the help on a command, or on the program.
-/

namespace ProxyMesh

namespace Help

/-- the most characters on a line -/
def lineWidth : Nat := 100

/-- words put on lines of at most `width` characters; `line` is the line so far -/
def fillLines (width : Nat) (line : String) : List String → List String
  | [] => [line]
  | word :: rest =>
    if width < line.length + 1 + word.length then line :: fillLines width word rest
    else fillLines width (line ++ " " ++ word) rest

def wrap (width : Nat) (text : String) : List String :=
  match Text.splitAt ' ' text with
  | [] => []
  | word :: rest => fillLines width word rest

def blanks (n : Nat) : String := String.ofList (List.replicate n ' ')

/-- lines, all but the first moved to the right -/
def hang (indent : Nat) (lines : List String) : String := ("\n" ++ blanks indent).intercalate lines

/-- a name and what it is about -/
structure Entry where
  name : String
  paragraphs : List String

/-- entries one below the other, descriptions in a column that begins two blanks after the longest
name -/
def table (entries : List Entry) : String :=
  let width := entries.foldl (fun n e => max n e.name.length) 0
  String.join (entries.map fun e =>
    "  " ++ e.name ++ blanks (width + 2 - e.name.length) ++
      hang (width + 4) (wrap (lineWidth - (width + 4)) (" ".intercalate e.paragraphs)) ++ "\n")

/-- entries with their descriptions below -/
def spacedTable (entries : List Entry) : String :=
  "\n".intercalate (entries.map fun e =>
    "  " ++ e.name ++ "\n" ++ blanks 10 ++
      hang 10 ((("\n\n".intercalate e.paragraphs).splitOn "\n").flatMap (wrap (lineWidth - 10))) ++
      "\n")

def valueName (flag : Flag) : String := "<" ++ flag.long.map Char.toUpper ++ ">"

def flagEntry (flag : Flag) : Entry where
  name := "-" ++ flag.short.toString ++ ", --" ++ flag.long ++ " " ++ valueName flag
  paragraphs := [flag.about].filter (!·.isEmpty) ++
    (flag.usual.map fun value => "[default: " ++ value ++ "]").toList

def operandLabel (o : Operand) : String := "<" ++ o.name ++ ">"

/-- what is written on one help text -/
structure Page where
  /-- the description, a paragraph each -/
  about : List String
  usage : String
  commands : List Entry
  operands : List Entry
  flags : List Entry
  /-- there is more to say than in short -/
  hasDetails : Bool

/-- a part of the text under a heading, left out if there is nothing in it -/
def part (write : List Entry → String) (heading : String) (entries : List Entry) : List String :=
  if entries.isEmpty then [] else [heading ++ ":\n" ++ write entries]

def helpAbout (hasDetails full : Bool) : String :=
  match hasDetails, full with
  | false, _ => "Print help"
  | true, true => "Print help (see a summary with '-h')"
  | true, false => "Print help (see more with '--help')"

def helpFlags (hasDetails full : Bool) : List Entry :=
  [⟨"-h, --help", [helpAbout hasDetails full]⟩, ⟨"-V, --version", ["Print version"]⟩]

def Page.text (p : Page) (full : Bool) : String :=
  let isSpaced := full && p.hasDetails
  let write := if isSpaced then spacedTable else table
  let about := "\n\n".intercalate (p.about.map fun paragraph =>
    "\n".intercalate (wrap lineWidth paragraph))
  let flags := if p.flags.isEmpty then [] else p.flags ++ helpFlags p.hasDetails full
  "\n".intercalate ([about ++ "\n", "Usage: " ++ p.usage ++ "\n"] ++
    part write "Commands" p.commands ++ part write "Arguments" p.operands ++
    part write "Options" flags)

def programName : String := "relay"

def helpEntry : Entry :=
  ⟨"help", ["Print this message or the help of the given subcommand(s)"]⟩

def programPage : Page where
  about := ["RelayGrid — proxy mesh config compiler and usage accounting"]
  usage := programName ++ " [OPTIONS] <COMMAND>"
  commands := forms.map (fun form => ⟨form.name, [form.about]⟩) ++ [helpEntry]
  operands := []
  flags := [flagEntry settingsFlag]
  hasDetails := false

/-- the usage line of a command: options that must be given, and the operand -/
def usage (form : Form) : String :=
  " ".intercalate ([programName, form.name, "[OPTIONS]"] ++
    ((form.flags.filter (·.required)).map fun flag => "--" ++ flag.long ++ " " ++ valueName flag) ++
    form.operand.toList.map operandLabel)

/-- the page of a command; a description of several paragraphs has full stops -/
def formPage (full : Bool) (form : Form) : Page where
  about := if full && !form.details.isEmpty then (form.about ++ ".") :: form.details else [form.about]
  usage := usage form
  commands := []
  operands := form.operand.toList.map fun o => ⟨operandLabel o, []⟩
  flags := (settingsFlag :: form.flags).map flagEntry
  hasDetails := !form.details.isEmpty

/-- the page of the command that shows help -/
def helpPage : Page where
  about := helpEntry.paragraphs
  usage := programName ++ " help [COMMAND]..."
  commands := []
  operands := [⟨"[COMMAND]...", ["Print help for the subcommand(s)"]⟩]
  flags := []
  hasDetails := false

end Help

open Help in
/-- the help on a command, on help itself for any other name, and on the program for none -/
def helpText (topic : Option String) (full : Bool) : String :=
  match topic with
  | none => programPage.text full
  | some name =>
    match forms.find? (·.name == name) with
    | some form => (formPage full form).text full
    | none => helpPage.text full

end ProxyMesh
