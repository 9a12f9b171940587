import Telemetry.Decimal.Reader
import Telemetry.Duration.Reader
import Telemetry.Network.Address

namespace Telemetry.CommandLine

open Telemetry

/-! Options of a command line and of the environment. An option is given at most once; what the
command line leaves out is taken from the environment. -/

/-- Why a command line is not run as it stands. -/
inductive Refusal where
  | unknownArgument
  | invalidValue
  | valueValidation
  | argumentConflict
  | tooManyValues
  | displayHelp
  | displayVersion
  deriving DecidableEq, Repr

def Refusal.message : Refusal → String
  | .unknownArgument => "unexpected argument"
  | .invalidValue => "invalid value, or no value where one belongs"
  | .valueValidation => "value cannot be read"
  | .argumentConflict => "option given more than once"
  | .tooManyValues => "option takes no value"
  | .displayHelp => "options are listed in the documentation"
  | .displayVersion => "version 0.1.0"

inductive Form where
  | help
  | version
  | flag
  | text
  | path
  | boolean
  | duration
  | count
  | address
  | choice (names : List String)
  deriving DecidableEq, Repr

def Form.takesValue : Form → Bool
  | .help | .version | .flag => false
  | _ => true

def countLimit : Nat := 0xFFFFFFFFFFFFFFFF

/-- Whether a value may be given. A flag takes one from the environment only. -/
def Form.check (form : Form) (value : String) : Except Refusal Unit :=
  let holds (condition : Bool) (refusal : Refusal) : Except Refusal Unit :=
    if condition then .ok () else .error refusal
  match form with
  | .help => .error .displayHelp
  | .version => .error .displayVersion
  | .text => .ok ()
  | .path => holds (value ≠ "") .invalidValue
  | .flag | .boolean => holds (value = "true" || value = "false") .invalidValue
  | .duration => holds (Duration.readSeconds value).isOk .valueValidation
  | .count => holds (Decimal.readNat? countLimit value.toList).isSome .valueValidation
  | .address => holds (Address.ofText? value).isSome .valueValidation
  | .choice names => holds (value ∈ names) .invalidValue

structure Parameter where
  name : String
  letter : Option Char
  environmentName : Option String
  form : Form
  deriving DecidableEq, Repr

def standing : List Parameter := [
  ⟨"help", some 'h', none, .help⟩,
  ⟨"version", some 'V', none, .version⟩]

/-- The values given so far, by the names of their parameters. -/
abbrev Values := List (String × String)

structure Scan where
  values : Values
  /-- A parameter whose value comes last, and the value once it is there. -/
  pending : Option (Parameter × Option String)
  /-- Whether the mark in front of plain arguments has been read. -/
  plain : Bool

namespace Scan

def empty : Scan := ⟨[], none, false⟩

def accept (scan : Scan) (parameter : Parameter) (value : String) : Except Refusal Scan := do
  if (scan.values.lookup parameter.name).isSome then .error .argumentConflict
  else
    parameter.form.check value
    return { scan with values := (parameter.name, value) :: scan.values }

def settle (scan : Scan) : Except Refusal Scan :=
  let settled := { scan with pending := none }
  match scan.pending with
  | none => .ok settled
  | some (_, none) => .error .invalidValue
  | some (parameter, some value) => settled.accept parameter value

/-- Takes an option with what is attached to it, if anything is. -/
def option (scan : Scan) (parameter : Parameter) (attached : Option String) :
    Except Refusal Scan := do
  match parameter.form.takesValue, attached with
  | true, some value => (← scan.settle).accept parameter value
  | true, none => return { ← scan.settle with pending := some (parameter, none) }
  | false, some _ => .error .tooManyValues
  | false, none => (← scan.settle).accept parameter "true"

/-- Takes letters behind one dash. The first that takes a value takes the rest as its value. -/
def letters (parameters : List Parameter) (scan : Scan) : List Char → Except Refusal Scan
  | [] => .ok scan
  | letter :: rest =>
    match parameters.find? fun parameter => parameter.letter = some letter with
    | none => .error .unknownArgument
    | some parameter =>
      if parameter.form.takesValue then
        let attached := match rest with
          | [] => none
          | '=' :: value => some (String.ofList value)
          | value => some (String.ofList value)
        scan.option parameter attached
      else do
        let scan ← scan.option parameter none
        scan.letters parameters rest

def argument (parameters : List Parameter) (scan : Scan) (written : String) :
    Except Refusal Scan :=
  if scan.plain then .error .unknownArgument
  else match written.toList with
    | ['-', '-'] => .ok { scan with plain := true }
    | '-' :: '-' :: rest =>
      let name := String.ofList (rest.takeWhile (· ≠ '='))
      let attached := match rest.dropWhile (· ≠ '=') with
        | _ :: value => some (String.ofList value)
        | [] => none
      match parameters.find? fun parameter => parameter.name = name with
      | none => .error .unknownArgument
      | some parameter => scan.option parameter attached
    | '-' :: letter :: rest => scan.letters parameters (letter :: rest)
    | _ =>
      match scan.pending with
      | some (parameter, none) => .ok { scan with pending := some (parameter, some written) }
      | _ => .error .unknownArgument

/-- Takes from the environment what has not been given. -/
def fill (environment : String → Option String) (scan : Scan) (parameter : Parameter) :
    Except Refusal Scan :=
  match scan.values.lookup parameter.name, parameter.environmentName.bind environment with
  | none, some value => scan.accept parameter value
  | _, _ => .ok scan

end Scan

/-- All values that the arguments and the environment give. -/
def read (parameters : List Parameter) (arguments : List String)
    (environment : String → Option String) : Except Refusal Values := do
  let parameters := parameters ++ standing
  let scan ← arguments.foldlM (Scan.argument parameters) Scan.empty
  let scan ← scan.settle
  let scan ← parameters.foldlM (Scan.fill environment) scan
  return scan.values

namespace Values

def text? (values : Values) (name : String) : Option String := values.lookup name

def flag (values : Values) (name : String) : Bool := values.lookup name = some "true"

def boolean? (values : Values) (name : String) : Option Bool :=
  (values.lookup name).map (· = "true")

def duration? (values : Values) (name : String) : Option Duration :=
  (values.lookup name).bind fun value => (Duration.readSeconds value).toOption

def count? (values : Values) (name : String) : Option Nat :=
  (values.lookup name).bind fun value => Decimal.readNat? countLimit value.toList

def address? (values : Values) (name : String) : Option Address :=
  (values.lookup name).bind Address.ofText?

end Values

end Telemetry.CommandLine
