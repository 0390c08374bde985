import Tollbooth.CommandLine.Arguments
/-!
# Help on the command line

What the program says of itself and of its commands.
-/

set_option autoImplicit false

namespace Tollbooth

namespace Topic

/-- What a command does, in a line. -/
def summary : Topic → String
  | .program => "Pay for x402 resources and talk to a Gate Web3 facilitator"
  | .fetch => "GET a resource, paying for it when the server answers 402"
  | .supported => "List the payment kinds the facilitator supports"
  | .verify => "Ask the facilitator to verify a payment payload"
  | .settle => "Ask the facilitator to settle a payment payload on-chain"
  | .help => "Print this message or the help of the given subcommand(s)"

/-- How a command is called. -/
def usage : Topic → String
  | .program => "x402-gate [OPTIONS] <COMMAND>"
  | .fetch => "x402-gate fetch <URL>"
  | .supported => "x402-gate supported"
  | .verify => "x402-gate verify --payload <PAYLOAD> --requirements <REQUIREMENTS>"
  | .settle => "x402-gate settle --payload <PAYLOAD> --requirements <REQUIREMENTS>"
  | .help => "x402-gate help [COMMAND]..."

/-- The commands with what they do. -/
def commandList : List (String × String) :=
  Invocation.topics.map fun (name, topic) => (name, topic.summary)

/-- The options of a command with what they mean. -/
def optionList (env : Environment) : Topic → List (String × String)
  | .program =>
    [("-c, --config <CONFIG>", "Path to the JSON configuration file [env: CONFIG=" ++
        (env Invocation.configVariable).getD "" ++
        "] [default: " ++ Invocation.defaultConfig ++ "]"),
      ("-h, --help", "Print help")]
  | .verify | .settle =>
    [("    --payload <PAYLOAD>", "JSON file holding the signed payment payload"),
      ("    --requirements <REQUIREMENTS>",
        "JSON file holding the payment requirements the payload answers"),
      ("-h, --help", "Print help")]
  | .help => []
  | _ => [("-h, --help", "Print help")]

/-- The rows of a list under a title, the second column aligned. -/
def table? (title : String) (rows : List (String × String)) : Option String :=
  if rows.isEmpty then none
  else
    let width := (rows.map fun r => r.1.length).foldl max 0
    let row (r : String × String) : String :=
      "  " ++ r.1 ++ .ofList (List.replicate (width - r.1.length + 2) ' ') ++ r.2 ++ "\n"
    some (title ++ ":\n" ++ "".intercalate (rows.map row))

/-- The operands of a command with what they mean. -/
def operandList : Topic → List (String × String)
  | .fetch => [("<URL>", "")]
  | .help => [("[COMMAND]...", "Print help for the subcommand(s)")]
  | _ => []

/-- The help on a topic. -/
def text (env : Environment) (topic : Topic) : String :=
  let commands := if topic = .program then commandList else []
  let parts := [some (topic.summary ++ "\n"), some ("Usage: " ++ topic.usage ++ "\n"),
    table? "Commands" commands, table? "Arguments" topic.operandList,
    table? "Options" (topic.optionList env)].reduceOption
  "\n".intercalate parts

end Topic

end Tollbooth
