import Switchboard.OfferDesk.CommandLine

/-!
# Help for the command line of the offer desk

For every `Topic` the lines that tell how the program or one of its commands is called.
-/

namespace Switchboard.OfferDesk

/-- The name of the program and its version. -/
def versionLine : String := "offer-desk 0.1.0"

/-- The lines of help on a topic. -/
def Topic.lines : Topic → List String
  | program =>
    ["An offer desk demonstrating Reacton bindings wired from configuration",
      "",
      "Usage: offer-desk [OPTIONS] <COMMAND>",
      "",
      "Commands:",
      "  trigger  Trigger one or more events for a customer",
      "  resolve  Show the handlers an event would run, in order",
      "  help     Print this message or the help of the given subcommand(s)",
      "",
      "Options:",
      "  -c, --config <CONFIG>    Configuration file [default: reacton.toml]",
      "  -p, --profile <PROFILE>  Configuration profile",
      "  -h, --help               Print help",
      "  -V, --version            Print version"]
  | trigger =>
    ["Trigger one or more events for a customer",
      "",
      "Usage: offer-desk trigger [OPTIONS] --customer <CUSTOMER> <EVENTS>...",
      "",
      "Arguments:",
      "  <EVENTS>...  Event names, dispatched in order",
      "",
      "Options:",
      "      --customer <CUSTOMER>  Customer making the offer",
      "      --dollars <DOLLARS>    Offer amount [default: 0]",
      "      --floor <FLOOR>        Lowest acceptable offer",
      "      --until <UNTIL>        Stop at the first response containing this text (single event only)",
      "  -h, --help                 Print help"]
  | resolve =>
    ["Show the handlers an event would run, in order",
      "",
      "Usage: offer-desk resolve <EVENT>",
      "",
      "Arguments:",
      "  <EVENT>  Event name",
      "",
      "Options:",
      "  -h, --help  Print help"]
  | help =>
    ["Print this message or the help of the given subcommand(s)",
      "",
      "Usage: offer-desk help [COMMAND]...",
      "",
      "Arguments:",
      "  [COMMAND]...  Print help for the subcommand(s)"]

end Switchboard.OfferDesk
