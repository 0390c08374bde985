import Tollbooth.Http.Url
import Tollbooth.Setting
/-!
# Command lines

A command line names a command, with options and operands behind it; only the option that names the
configuration file stands in front.  The value of an option is either attached or the next argument,
and no option is given twice.

`Invocation.ofArguments` reads a command line.  Whatever it does not understand is a misuse, except
that a question for help is answered wherever it stands, if nothing in front of it is wrong.
-/

set_option autoImplicit false

namespace Tollbooth

/-- The files that hold a payment and the offer it is made for. -/
structure PaymentFiles where
  payload : String
  requirements : String
deriving DecidableEq

/-- What is to be done. -/
inductive Command where
  /-- Get a resource and pay for it if that is demanded. -/
  | fetch (url : Http.Url)
  /-- List what the facilitator supports. -/
  | supported
  /-- Ask the facilitator to verify a payment. -/
  | verify (files : PaymentFiles)
  /-- Ask the facilitator to settle a payment. -/
  | settle (files : PaymentFiles)
deriving DecidableEq

/-- The files that a command reads. -/
def Command.paths : Command → List String
  | .verify files | .settle files => [files.payload, files.requirements]
  | _ => []

/-- A command and the configuration file that it goes by. -/
structure Invocation where
  config : String
  command : Command
deriving DecidableEq

/-- What help is asked for. -/
inductive Topic where
  | program
  | fetch
  | supported
  | verify
  | settle
  | help
deriving DecidableEq

/-- Why a command line is no invocation. -/
inductive Refusal where
  | misused
  | help (topic : Topic)
deriving DecidableEq

namespace Invocation

/-! ## Single arguments -/

/-- What an argument is by itself. -/
inductive Token where
  | operand
  /-- The mark behind which everything is an operand. -/
  | separator
  | help
  /-- An option, with the value that is attached to it. -/
  | option (name : String) (value : Option String)
  | unknown

/-- The options of a command: their long names and the short one, if there is one. -/
abbrev Options := List (String × Option Char)

/-- The value attached to a short option, which may stand behind an equals sign. -/
def attached : List Char → Option String
  | [] => none
  | '=' :: value => some (.ofList value)
  | value => some (.ofList value)

/-- What an argument is where these options are known. -/
def token (known : Options) (arg : String) : Token :=
  match arg.toList with
  | ['-', '-'] => .separator
  | '-' :: '-' :: long =>
    let (name, value) := Text.splitFirst '=' long
    if name = "help".toList then if value.isNone then .help else .unknown
    else
      match known.find? (·.1.toList == name) with
      | some (name, _) => .option name (value.map .ofList)
      | none => .unknown
  | '-' :: c :: rest =>
    if c = 'h' then .help
    else
      match known.find? (·.2 == some c) with
      | some (name, _) => .option name (attached rest)
      | none => .unknown
  | _ => .operand

/-- An argument can be the value of the option in front of it. -/
def isPlain (arg : String) : Bool :=
  match arg.toList with
  | '-' :: _ :: _ => false
  | _ => true

/-! ## The front -/

/-- The option that names the configuration file. -/
def configOption : Options := [("config", some 'c')]

/-- The path of an option that may be given once and is not empty. -/
def onlyPath (earlier : Option String) (path : String) : Except Refusal (Option String) :=
  if earlier.isSome || path = "" then .error .misused else .ok (some path)

/-- The configuration file as far as the command line was read.  A path that is an argument of its
own is looked at only when it is settled. -/
structure ConfigPath where
  settled : Option String
  pending : Option String

/-- Settles the path that is pending, if there is one. -/
def ConfigPath.settle (c : ConfigPath) : Except Refusal (Option String) :=
  match c.pending with
  | none => .ok c.settled
  | some path => onlyPath c.settled path

/-- Reads what stands in front of the command: the configuration file, and the rest from the command
on.  A path is settled by the next option. -/
def front (config : ConfigPath) : List String → Except Refusal (ConfigPath × List String)
  | [] => .error .misused
  | arg :: rest =>
    match token configOption arg with
    | .operand => .ok (config, arg :: rest)
    | .help => do
      let _ ← config.settle
      .error (.help .program)
    | .option _ (some path) => do
      front ⟨← onlyPath (← config.settle) path, none⟩ rest
    | .option _ none => do
      let settled ← config.settle
      match rest with
      | path :: rest => if isPlain path then front ⟨settled, some path⟩ rest else .error .misused
      | [] => .error .misused
    | .separator | .unknown => .error .misused

/-! ## Commands -/

/-- What has been read of a command. -/
structure Given where
  options : List (String × String)
  operands : List String

/-- What a command takes. -/
structure Grammar where
  topic : Topic
  options : Options
  /-- An operand may follow those that were given. -/
  accepts : List String → String → Bool

namespace Grammar

/-- One more operand. -/
def addOperand (g : Grammar) (given : Given) (arg : String) : Except Refusal Given :=
  if g.accepts given.operands arg then .ok { given with operands := given.operands ++ [arg] }
  else .error .misused

/-- One more option, which may not be given twice; its value may not be empty. -/
def addOption (given : Given) (name value : String) : Except Refusal Given :=
  if given.options.any (·.1 == name) || value = "" then .error .misused
  else .ok { given with options := given.options ++ [(name, value)] }

/-- Reads what stands behind a command. -/
def read (g : Grammar) (given : Given) : List String → Except Refusal Given
  | [] => .ok given
  | arg :: rest =>
    match token g.options arg with
    | .operand => do g.read (← g.addOperand given arg) rest
    | .separator => rest.foldlM g.addOperand given
    | .help => .error (.help g.topic)
    | .option name (some value) => do g.read (← addOption given name value) rest
    | .option name none =>
      match rest with
      | value :: rest =>
        if isPlain value then do g.read (← addOption given name value) rest else .error .misused
      | [] => .error .misused
    | .unknown => .error .misused

end Grammar

/-- No operands. -/
def noOperands : List String → String → Bool := fun _ _ => false

/-- A single URL. -/
def oneUrl : List String → String → Bool := fun earlier arg =>
  earlier.isEmpty && (Http.Url.parse? arg).isSome

/-- The options that name the files of a payment. -/
def paymentOptions : Options := [("payload", none), ("requirements", none)]

/-- The files of a payment, both of which have to be named. -/
def paymentFiles (topic : Topic) (args : List String) : Except Refusal PaymentFiles := do
  let given ← Grammar.read ⟨topic, paymentOptions, noOperands⟩ ⟨[], []⟩ args
  match given.options.lookup "payload", given.options.lookup "requirements" with
  | some payload, some requirements => return ⟨payload, requirements⟩
  | _, _ => .error .misused

/-- The URL of a command that takes one. -/
def url (args : List String) : Except Refusal Http.Url := do
  let given ← Grammar.read ⟨.fetch, [], oneUrl⟩ ⟨[], []⟩ args
  match given.operands.head?.bind Http.Url.parse? with
  | some url => return url
  | none => .error .misused

/-- The topics of help, by name. -/
def topics : List (String × Topic) :=
  [("fetch", .fetch), ("supported", .supported), ("verify", .verify), ("settle", .settle),
    ("help", .help)]

/-- What a question for help is about. -/
def helpTopic : List String → Refusal
  | [] => .help .program
  | name :: rest =>
    match topics.lookup name with
    | none => .misused
    | some topic => if rest.isEmpty then .help topic else .misused

/-- Reads a command with what stands behind it. -/
def readCommand : List String → Except Refusal Command
  | "fetch" :: args => Command.fetch <$> url args
  | "supported" :: args => do
    let _ ← Grammar.read ⟨.supported, [], noOperands⟩ ⟨[], []⟩ args
    return .supported
  | "verify" :: args => Command.verify <$> paymentFiles .verify args
  | "settle" :: args => Command.settle <$> paymentFiles .settle args
  | "help" :: args => .error (helpTopic args)
  | _ => .error .misused

/-! ## Whole command lines -/

/-- The variable that names the configuration file if the command line does not. -/
def configVariable : String := "CONFIG"

/-- The configuration file unless it is named. -/
def defaultConfig : String := "config.json"

/-- The invocation that a command line spells, in an environment.  A path right in front of the
command is settled when the command has been read. -/
def ofArguments (env : Environment) (args : List String) : Except Refusal Invocation := do
  let (config, rest) ← front ⟨none, none⟩ args
  let command ← readCommand rest
  match (← config.settle).or (env configVariable) with
  | none => return ⟨defaultConfig, command⟩
  | some path => if path = "" then .error .misused else return ⟨path, command⟩

end Invocation

end Tollbooth
