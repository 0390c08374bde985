import Tollbooth.CommandLine.EnvFile
import Tollbooth.CommandLine.Help
import Tollbooth.Config
import Tollbooth.Delivery
import Tollbooth.Http.Content
/-!
# The program

`Program.run` reads the command line and the configuration and carries out the command: a dialogue
that ends with what is to be printed and an exit status.  Everything that a run takes from its
surroundings other than by the dialogue is given to it in front.
-/

set_option autoImplicit false

namespace Tollbooth

/-- What a run finds around it. -/
structure Surroundings where
  environment : Environment
  /-- The nearest file of environment variables, if there is one. -/
  envFile : Option Bytes
  files : Files
  occasion : Occasion
  stamp : Stamp

/-- How a run ends. -/
structure Ending where
  status : Nat
  output : String
  errors : String
deriving DecidableEq, Inhabited

namespace Ending

/-- Something was printed, and all went well. -/
def success (output : String) : Ending := ⟨0, output, ""⟩

/-- The run failed after something was printed. -/
def failureAfter (output message : String) : Ending := ⟨1, output, message ++ "\n"⟩

/-- The run failed. -/
def failure (message : String) : Ending := failureAfter "" message

/-- The clock cannot show a time that is needed, and the run is broken off. -/
def brokenOff : Ending := ⟨101, "", "overflow when adding duration to instant\n"⟩

/-- The command line is no invocation. -/
def refusal (env : Environment) : Refusal → Ending
  | .misused => ⟨2, "", Topic.program.text env⟩
  | .help topic => success (topic.text env)

/-- A document is the result. -/
def document (d : Json.Doc) : Ending := success (d.renderPretty ++ "\n")

end Ending

namespace Program

/-- The environment of a run. -/
def environment (s : Surroundings) : Environment :=
  s.envFile.elim s.environment (EnvFile.load s.environment)

/-- The content of a file, or how the run ends without it. -/
def readFile (s : Surroundings) (path : String) : Except Ending Bytes :=
  match s.files path with
  | .ok content => .ok content
  | .error fault => .error (.failure ("Failed to read " ++ path ++ ": " ++ fault.message))

/-- How a call of a facilitator ends a run. -/
def answer {α : Type} (write : α → Json.Doc) : Except FacilitatorError α → Ending
  | .ok a => .document (write a)
  | .error e => .failure e.message

/-- What is said of a request that has no response. -/
def sendMessage : SendError → String
  | .payment e => e.message
  | .transport fault => "Request error: " ++ fault.message

/-- What is printed of a response: its status, how the payment was settled, and its text. -/
def responseEnding (r : Http.Response) : Ending :=
  let settled := (settlementOf r).elim "" fun s => s.toDoc.renderPretty ++ "\n"
  let head := Http.statusText r.status ++ "\n" ++ settled
  match r.text? with
  | some text => .success (head ++ text ++ "\n")
  | none => .failureAfter head ("Request error: " ++ Http.TransportFault.interrupted.message)

/-- Gets a resource. -/
def fetch (s : Surroundings) (config : Config) (url : Http.Url) : Dialogue Ending :=
  match config.payer with
  | .error e => return .failure e.message
  | .ok payer => do
    match ← payer.send s.occasion (.make "GET" url [] .none) with
    | .error e => return .failure (sendMessage e)
    | .ok response => return responseEnding response

/-- Calls the configured facilitator. -/
def withFacilitator (env : Environment) (config : Config) (call : Facilitator → Dialogue Ending) :
    Dialogue Ending :=
  match config.facilitator env with
  | .error e => return .failure e.message
  | .ok f => call f

/-- Calls the facilitator with the documents in two files.  The files are read first. -/
def withDocuments (s : Surroundings) (config : Config) (files : PaymentFiles)
    (call : Facilitator → Bytes → Bytes → Dialogue Ending) : Dialogue Ending :=
  let read : Except Ending (Bytes × Bytes) := do
    let payload ← readFile s files.payload
    let requirements ← readFile s files.requirements
    return (payload, requirements)
  match read with
  | .error ending => return ending
  | .ok (payload, requirements) =>
    withFacilitator (environment s) config fun f => call f payload requirements

/-- Carries out a command. -/
def carryOut (s : Surroundings) (config : Config) : Command → Dialogue Ending
  | .fetch url => fetch s config url
  | .supported => withFacilitator (environment s) config fun f => do
    let (told, _) ← f.supported s.stamp.time s.stamp.time s.stamp
    return told.elim .brokenOff (answer Supported.toDoc)
  | .verify files => withDocuments s config files fun f payload requirements => do
    return answer Verification.toDoc (← f.verify s.stamp payload requirements)
  | .settle files => withDocuments s config files fun f payload requirements => do
    return answer Settlement.toDoc (← f.settle s.stamp payload requirements)

/-- The files that a command line names. -/
def paths (s : Surroundings) (args : List String) : List String :=
  match Invocation.ofArguments (environment s) args with
  | .error _ => []
  | .ok invocation => invocation.config :: invocation.command.paths

/-- Runs the program with the arguments behind its name.  Its requests go by way of the proxies that
the environment names. -/
def run (s : Surroundings) (args : List String) : Dialogue Ending :=
  let env := environment s
  match Invocation.ofArguments env args with
  | .error refusal => return .refusal env refusal
  | .ok invocation =>
    match Config.loadOrDefault s.files env invocation.config with
    | .error e => return .failure e.message
    | .ok config => (carryOut s config invocation.command).delivered (.ofEnvironment env)

end Program

end Tollbooth
