import DiagnosticConsole.Command.Suggestion
import DiagnosticConsole.Text.Quoted

/-!
# Options

Options begin with two dashes. Some take a value, which is the next argument or
follows an equals sign. Two dashes alone end the options.
-/

namespace DiagnosticConsole.Command

/-- The options of all commands. -/
inductive Flag where
  | pageWidth
  | noColor
  | explain
  | language
  | debug
  | help
  deriving DecidableEq, Repr

namespace Flag

/-- An option as it is written. -/
def name : Flag → Text
  | pageWidth => Text.ofString "--page-width"
  | noColor => Text.ofString "--no-color"
  | explain => Text.ofString "--explain"
  | language => Text.ofString "--language"
  | debug => Text.ofString "--debug"
  | help => Text.ofString "--help"

/-- Tests for an option with a value. -/
def takesValue : Flag → Bool
  | pageWidth | language => true
  | noColor | explain | debug | help => false

end Flag

/-- What is wrong with how the program was called. -/
inductive UsageProblem where
  | noSuchOption (name : Text) (close : List Text)
  | takesNoValue (name : Text)
  | needsValue (name : Text)
  | noSuchCommand (name : Text)
  | notAnInteger (value : Text)
  | negative (value : Int)
  | isDirectory (path : Text)
  | noFiles
  | extraArguments (arguments : List Text)
  | unknownLanguage (name : Text)
  deriving DecidableEq, Repr

namespace UsageProblem

/-- What is said about names that are close to one that is not known. -/
def suggestion (close : List Text) : Text :=
  match close with
  | [] => []
  | [name] => Text.ofString " Did you mean " ++ name ++ ['?']
  | names =>
      Text.ofString " (Possible options: "
        ++ Text.join (Text.ofString ", ") (Text.distinctInOrder names) ++ [')']

/-- The wording of a problem. -/
def message : UsageProblem → Text
  | noSuchOption name close =>
      Text.ofString "No such option: " ++ name ++ suggestion close
  | takesNoValue name =>
      Text.ofString "Option " ++ Text.quoted name
        ++ Text.ofString " does not take a value."
  | needsValue name =>
      Text.ofString "Option " ++ Text.quoted name
        ++ Text.ofString " requires an argument."
  | noSuchCommand name =>
      Text.ofString "No such command " ++ Text.quoted name ++ ['.']
  | notAnInteger value =>
      Text.ofString "Invalid value for '--page-width': " ++ Text.quoted value
        ++ Text.ofString " is not a valid integer range."
  | negative value =>
      Text.ofString "Invalid value for '--page-width': " ++ Text.ofInt value
        ++ Text.ofString " is not in the range x>=0."
  | isDirectory path =>
      Text.ofString "Invalid value for 'FILES...': File " ++ Text.quoted path
        ++ Text.ofString " is a directory."
  | noFiles => Text.ofString "Missing argument 'FILES...'."
  | extraArguments arguments =>
      Text.ofString "Got unexpected extra argument"
        ++ (if arguments.length = 1 then [] else ['s'])
        ++ Text.ofString " (" ++ Text.join [' '] arguments ++ [')']
  | unknownLanguage name =>
      Text.ofString "Invalid value for --language: Unknown language '" ++ name
        ++ Text.ofString "'"

/-- Tests for a problem that is told without a reminder of the usage. -/
def isBare : UsageProblem → Bool
  | takesNoValue _ | needsValue _ => true
  | _ => false

end UsageProblem

/-- Arguments that are told apart: options with their values in order, and the
rest. -/
structure Scanned where
  options : List (Flag × Option Text) := []
  others : List Text := []
  deriving DecidableEq, Repr

namespace Scanned

/-- The arguments with one more option in front. -/
def addOption (flag : Flag) (value : Option Text) (s : Scanned) : Scanned :=
  { s with options := (flag, value) :: s.options }

/-- The arguments with one more of the others in front. -/
def addOther (argument : Text) (s : Scanned) : Scanned :=
  { s with others := argument :: s.others }

/-- Tests whether an option was given. -/
def gives (s : Scanned) (flag : Flag) : Bool :=
  s.options.any fun option => option.1 = flag

/-- The last value that was given with an option. -/
def value? (s : Scanned) (flag : Flag) : Option Text :=
  s.options.reverse.findSome? fun option =>
    if option.1 = flag then option.2 else none

end Scanned

/-- What stands in front of an equals sign, and what behind. -/
def splitValue (argument : Text) : Text × Option Text :=
  let name := argument.takeWhile (· ≠ '=')
  match argument.drop name.length with
  | _ :: value => (name, some value)
  | [] => (name, none)

/-- The problem with an option that is not known. One that begins with a single
dash is taken for letters behind a dash, of which the first is not known. -/
def unknownOption (flags : List Flag) (argument : Text) : UsageProblem :=
  match argument with
  | '-' :: '-' :: _ =>
      let name := (splitValue argument).1
      .noSuchOption name (Suggestion.closest name (flags.map Flag.name))
  | _ => .noSuchOption (argument.take 2) []

/-- Tells options from other arguments. Unless they may be `mixed`, the first other
argument ends the options. -/
def scan (flags : List Flag) (mixed : Bool) :
    List Text → Except UsageProblem Scanned
  | [] => .ok {}
  | argument :: rest =>
      if argument = ['-', '-'] then .ok { others := rest }
      else if argument.head? = some '-' && argument.length > 1 then
        let (name, attached) := splitValue argument
        match flags.find? fun flag => flag.name = name with
        | none => .error (unknownOption flags argument)
        | some flag =>
            match flag.takesValue, attached with
            | true, some value =>
                (scan flags mixed rest).map (·.addOption flag (some value))
            | true, none =>
                match rest with
                | value :: rest' =>
                    (scan flags mixed rest').map
                      (·.addOption flag (some value))
                | [] => .error (.needsValue name)
            | false, some _ => .error (.takesNoValue name)
            | false, none =>
                (scan flags mixed rest).map (·.addOption flag none)
      else if mixed then (scan flags mixed rest).map (·.addOther argument)
      else .ok { others := argument :: rest }

end DiagnosticConsole.Command
