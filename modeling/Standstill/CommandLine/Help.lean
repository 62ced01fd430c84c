import Standstill.CommandLine.Parse

/-!
# Help texts

The help of a program lists its options with what they do, their defaults
and their choices, in one of two layouts.
-/
namespace Standstill.CommandLine

variable {α : Type}

/-- An option in a help text: how it is called, and what is said of it. -/
structure HelpEntry where
  call : String
  text : String

/-- What is said of an option. -/
def Opt.description (o : Opt α) : String :=
  let default := if o.default = "" then [] else ["[default: " ++ o.default ++ "]"]
  let choices :=
    if o.choices = [] then [] else ["[possible values: " ++ ", ".intercalate o.choices ++ "]"]
  let help := if o.help = "" then [] else [o.help]
  " ".intercalate (help ++ default ++ choices)

def Program.helpEntries (p : Program α) : List HelpEntry :=
  (p.options.map fun o => ⟨"      " ++ o.shown, o.description⟩) ++
    [⟨"  -h, --help", "Print help"⟩, ⟨"  -V, --version", "Print version"⟩]

/-- Spaces after a text up to a width. -/
def padTo (width : Nat) (s : String) : String :=
  s ++ String.ofList (List.replicate (width - s.length) ' ')

def HelpEntry.lines (layout : Layout) (width : Nat) (e : HelpEntry) : List String :=
  match layout with
  | .beside => [padTo width e.call ++ "  " ++ e.text]
  | .below => [e.call, "          " ++ e.text]

def Program.helpText (p : Program α) : String :=
  let entries := p.helpEntries
  let width := entries.foldl (fun w e => max w e.call.length) 0
  let lines := [p.about, "", "Usage: " ++ p.name ++ " [OPTIONS]", "", "Options:"] ++
    entries.flatMap (HelpEntry.lines p.layout width)
  String.join (lines.map (· ++ "\n"))

def Program.versionText (p : Program α) : String := p.name ++ " " ++ p.version ++ "\n"

/-- What a program prints when it stops before it has settings; of a usage
error, the first line. -/
def Program.stopText (p : Program α) : Stop → String
  | .help => p.helpText
  | .version => p.versionText
  | .usage e => e.message

end Standstill.CommandLine
