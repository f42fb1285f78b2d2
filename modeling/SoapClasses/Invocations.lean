/-!
# Invocations

The words of a command line name a command and give its options. An option is a word and the value behind
it; the last value given for an option counts.
-/

namespace SoapClasses

/-- A command with its options. -/
inductive Invocation where
  | generate (metadata output : String) (project : Option String)
  | check (project : Option String)
  deriving DecidableEq, Repr

/-- The options of a command line. -/
structure CommandOptions where
  metadata : Option String := none
  output : Option String := none
  project : Option String := none
  deriving DecidableEq, Repr

namespace CommandOptions

/-- The options with one more value, if the word in front of it names an option. -/
def set? (options : CommandOptions) (word value : String) : Option CommandOptions :=
  match word with
  | "-m" | "--metadata" => some { options with metadata := some value }
  | "-o" | "--output" => some { options with output := some value }
  | "-c" | "--config" => some { options with project := some value }
  | _ => none

def read? (options : CommandOptions) : List String → Option CommandOptions
  | [] => some options
  | word :: value :: rest => (options.set? word value).bind (fun options => read? options rest)
  | [_] => none

end CommandOptions

namespace Invocation

/-- The command with these options, if it has the ones it needs and no others. -/
def ofOptions? (command : String) (options : CommandOptions) : Option Invocation :=
  match command, options with
  | "generate", ⟨some metadata, some output, project⟩ => some (.generate metadata output project)
  | "check", ⟨none, none, project⟩ => some (.check project)
  | _, _ => none

/-- The invocation in the words of a command line. -/
def read? : List String → Option Invocation
  | [] => none
  | command :: words => (CommandOptions.read? {} words).bind (ofOptions? command)

def usage : String :=
  "Usage: soapgen generate --metadata FILE --output DIRECTORY [--config FILE]\n"
    ++ "       soapgen check [--config FILE]\n"

end Invocation

end SoapClasses
