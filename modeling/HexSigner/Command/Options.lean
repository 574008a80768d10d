/-!
# Options of the command line

The arguments after a command are switches and options.  `--json` is a switch; every other argument
that starts with two dashes is a flag, and the argument after it is its value, whatever that looks
like.  The name of an option is its flag without the dashes in front, which go in pairs.  When an
option is given several times, the last value counts.
-/

set_option autoImplicit false

namespace HexSigner.Command

/-- What is wrong with arguments. -/
inductive Options.Fault where
  /-- A flag is the last argument. -/
  | missingValue (flag : String)
  /-- An argument is neither a flag nor the value of one. -/
  | unexpected (argument : String)
deriving DecidableEq, Repr

/-- The wording of a fault. -/
def Options.Fault.message : Options.Fault → String
  | .missingValue flag => "Missing value for " ++ flag
  | .unexpected argument => "Unexpected argument: " ++ argument

/-- What was given on the command line. -/
structure Options where
  /-- The options and their values, the last one given first. -/
  values : List (String × String) := []
  /-- Whether output is wanted in JSON. -/
  json : Bool := false
deriving DecidableEq, Repr

namespace Options

/-- The text of a flag without the pairs of dashes in front. -/
def withoutDashes : List Char → List Char
  | '-' :: '-' :: rest => withoutDashes rest
  | cs => cs

/-- Whether an argument is a flag. -/
def isFlag (argument : String) : Bool := ['-', '-'].isPrefixOf argument.toList

/-- The name of the option that a flag stands for. -/
def nameOf (flag : String) : String := String.ofList (withoutDashes flag.toList)

/-- Options with a switch for JSON before them. -/
def afterJson (o : Options) : Options := { o with json := true }

/-- Options with another option before them. -/
def afterValue (name value : String) (o : Options) : Options :=
  { o with values := o.values ++ [(name, value)] }

/-- The options in a list of arguments. -/
def parse : List String → Except Fault Options
  | [] => .ok {}
  | argument :: rest =>
    if argument = "--json" then (parse rest).map afterJson
    else if isFlag argument then
      match rest with
      | [] => .error (.missingValue argument)
      | value :: rest => (parse rest).map (afterValue (nameOf argument) value)
    else .error (.unexpected argument)

/-- The value of an option. -/
def value? (o : Options) (name : String) : Option String := o.values.lookup name

end Options

end HexSigner.Command
