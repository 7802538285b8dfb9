import PipeShell.Args.Spec

/-!
# `PipeShell.Args.Reading`: reading arguments

Arguments are taken from left to right. Until options have ended, `--`
ends them, a word for help asks for the help text, and any other
argument with a hyphen in front is an option, whose value is the next
argument whatever it looks like. All else is positional.
-/

set_option autoImplicit false

namespace PipeShell.Args

/-- Why arguments were refused. -/
inductive Fault where
  | unrecognized (arg : String)
  | noValue (option : String)
  | badValue (option value reason : String)
  | optionAfterHelp
deriving Repr, DecidableEq

/-- The text of a fault. -/
def Fault.message : Fault → String
  | unrecognized arg => "Unrecognized argument: " ++ arg ++ "\n"
  | noValue option => "No value provided for option '" ++ option ++ "'.\n"
  | badValue option value reason =>
      "Error parsing option '" ++ option ++ "' with value '" ++ value ++ "': " ++ reason ++ "\n"
  | optionAfterHelp => "Trailing arguments are not allowed after `help`."

/-- Why no arguments came of a reading: help was asked for, or there was
a fault. -/
inductive Stop where
  | help
  | fault (f : Fault)
deriving Repr, DecidableEq

/-- Arguments sorted out. Switches and values go by the long name of
their option; operands are the positional arguments in order. -/
structure Given where
  switches : List String
  values : List (String × String)
  operands : List String
deriving Repr, DecidableEq

namespace Given

/-- No arguments. -/
def empty : Given := ⟨[], [], []⟩

/-- Whether a switch was given. -/
def has (g : Given) (long : String) : Bool := g.switches.contains long

/-- The value of an option. -/
def value? (g : Given) (long : String) : Option String := g.values.lookup long

end Given

/-- How far a reading has come. -/
structure Progress where
  given : Given
  help : Bool
  ended : Bool
deriving Repr, DecidableEq

namespace Progress

/-- Nothing read yet. -/
def start : Progress := ⟨.empty, false, false⟩

/-- With one more switch. -/
def withSwitch (p : Progress) (long : String) : Progress :=
  { p with given := { p.given with switches := p.given.switches ++ [long] } }

/-- With one more value. -/
def withValue (p : Progress) (long value : String) : Progress :=
  { p with given := { p.given with values := p.given.values ++ [(long, value)] } }

/-- With one more operand. -/
def withOperand (p : Progress) (arg : String) : Progress :=
  { p with given := { p.given with operands := p.given.operands ++ [arg] } }

end Progress

/-- The words that ask for help. -/
def isHelpWord (arg : String) : Bool := arg == "--help" || arg == "help"

/-- An argument with a hyphen in front. -/
def isDashed (arg : String) : Bool := arg.toList.head? == some '-'

/-- The option that an argument calls. -/
def Spec.option? (s : Spec) (arg : String) : Option OptionSpec := s.options.find? (·.isCalled arg)

/-- Take a positional argument. -/
def Spec.takeOperand (s : Spec) (p : Progress) (arg : String) : Except Fault Progress :=
  match s.positional with
  | none => .error (.unrecognized arg)
  | some pos =>
      match pos.arity with
      | .repeated => .ok (p.withOperand arg)
      | .greedy => .ok { p.withOperand arg with ended := true }
      | .optional =>
          if p.given.operands.isEmpty then .ok (p.withOperand arg)
          else .error (.unrecognized arg)

/-- Take the value of an option, which may be given only once. -/
def OptionSpec.takeValue (o : OptionSpec) (p : Progress) (arg value : String) :
    Except Fault Progress :=
  if (p.given.value? o.long).isSome then
    .error (.badValue arg value "duplicate values provided")
  else match o.kind.fault? value with
    | some reason => .error (.badValue arg value reason)
    | none => .ok (p.withValue o.long value)

/-- Read the rest of the arguments. -/
def Spec.readFrom (s : Spec) : Progress → List String → Except Fault Progress
  | p, [] => .ok p
  | p, arg :: rest =>
      if !p.ended && isHelpWord arg then s.readFrom { p with help := true } rest
      else if !p.ended && isDashed arg then
        if arg == "--" then s.readFrom { p with ended := true } rest
        else if p.help then .error .optionAfterHelp
        else match s.option? arg with
          | none => .error (.unrecognized arg)
          | some o =>
              match o.kind, rest with
              | .switch, rest => s.readFrom (p.withSwitch o.long) rest
              | _, [] => .error (.noValue arg)
              | _, value :: rest =>
                  match o.takeValue p arg value with
                  | .error f => .error f
                  | .ok p => s.readFrom p rest
      else match s.takeOperand p arg with
        | .error f => .error f
        | .ok p => s.readFrom p rest

/-- Read arguments. A fault comes before a request for help. -/
def Spec.read (s : Spec) (args : List String) : Except Stop Given :=
  match s.readFrom .start args with
  | .error f => .error (.fault f)
  | .ok p => if p.help then .error .help else .ok p.given

end PipeShell.Args
