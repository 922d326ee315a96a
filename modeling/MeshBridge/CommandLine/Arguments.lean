import MeshBridge.Decimal.Numeral
/-!
The arguments of the program: a command, and options before it or after it. A long option takes its
value after an equals sign or as the next argument, a short one also right behind its letter; short
options without a value may share a dash.
-/

set_option autoImplicit false
set_option relaxedAutoImplicit false

namespace MeshBridge.CommandLine

inductive Command where
  /-- Runs the simulation for so many seconds. -/
  | run (seconds : Nat)
  /-- Lists the correction table. -/
  | corrections
  /-- Writes out the configuration. -/
  | config
  deriving DecidableEq, Repr

/-- What the arguments ask for. -/
inductive Request where
  | perform (command : Command) (configPath : Option String)
  | version
  | help
  deriving DecidableEq, Repr

/-- Which command was named. -/
inductive Verb where
  | run | corrections | config
  deriving DecidableEq, Repr

def Verb.ofName? : String → Option Verb
  | "run" => some .run
  | "quirks" => some .corrections
  | "config" => some .config
  | _ => none

/-- The options of the program. -/
inductive Flag where
  | config | verbose | seconds | version | help
  deriving DecidableEq, Repr

namespace Flag

def takesValue : Flag → Bool
  | config | seconds => true
  | _ => false

def ofLong? : List Char → Option Flag := fun name ↦
  [("config", config), ("verbose", verbose), ("seconds", seconds), ("version", version),
    ("help", help)].lookup (String.ofList name)

def ofShort? : Char → Option Flag
  | 'c' => some config
  | 'v' => some verbose
  | 's' => some seconds
  | 'V' => some version
  | 'h' => some help
  | _ => none

/-- Whether an option may stand behind a command, or in front of all (`none`). -/
def isAllowed (verb : Option Verb) : Flag → Bool
  | config | verbose | help => true
  | seconds => verb = some .run
  | version => verb.isNone

end Flag

/-- What was read so far. -/
structure State where
  verb : Option Verb
  config : Option String
  seconds : Option Nat
  /-- The options that were given since the command, or at all if there is none yet. -/
  given : List Flag

/-- How reading goes on: it may be over at once, or fail. -/
inductive Next where
  | go (s : State)
  | stop (r : Request)
  | fail

/-- Notes an option with its value. None may be given twice on one side of the command. -/
def State.set (s : State) (flag : Flag) (value : Option String) : Next :=
  if !flag.isAllowed s.verb || s.given.contains flag then .fail
  else
    let s := { s with given := flag :: s.given }
    match flag, value with
    | .version, _ => .stop .version
    | .help, _ => .stop .help
    | .verbose, _ => .go s
    | .config, some path => if path.isEmpty then .fail else .go { s with config := some path }
    | .seconds, some text =>
      match Decimal.unsigned? UInt64.size text with
      | some n => .go { s with seconds := some n }
      | none => .fail
    | _, none => .fail

/-- A part of an argument: an option, with the value that stands in the same argument. -/
structure Part where
  flag : Flag
  value : Option String

/-- The text after an equals sign, if that comes first. -/
def afterEquals : List Char → Option String
  | '=' :: rest => some (String.ofList rest)
  | _ => none

/-- The option of a long argument, its dashes left off. -/
def longPart? (body : List Char) : Option Part := do
  let flag ← Flag.ofLong? (body.takeWhile (· ≠ '='))
  let value := afterEquals (body.dropWhile (· ≠ '='))
  if value.isSome && !flag.takesValue then none else some ⟨flag, value⟩

/-- The options of a short argument, its dash left off; nothing in place of a letter that is none,
after which no more are read. -/
def shortParts : List Char → List (Option Part)
  | [] => []
  | c :: rest =>
    match Flag.ofShort? c with
    | none => [none]
    | some flag =>
      if !flag.takesValue then some ⟨flag, none⟩ :: shortParts rest
      else if rest.isEmpty then [some ⟨flag, none⟩]
      else [some ⟨flag, some ((afterEquals rest).getD (String.ofList rest))⟩]

/-- Whether an argument can be the value of an option. -/
def isValue (argument : String) : Bool :=
  match argument.toList with
  | '-' :: _ :: _ => false
  | _ => true

/-- Notes options in turn, so that those in front of a bad one may have ended the reading. One that
still needs its value is handed back. -/
def State.setAll (s : State) : List (Option Part) → Next × Option Flag
  | [] => (.go s, none)
  | none :: _ => (.fail, none)
  | some ⟨flag, value⟩ :: rest =>
    if flag.takesValue && value.isNone then (.go s, some flag)
    else match s.set flag value with
      | .go s => s.setAll rest
      | next => (next, none)

/-- The options in one argument; nothing if it is not of their form. -/
def parts? (argument : String) : Option (List (Option Part)) :=
  match argument.toList with
  | '-' :: '-' :: body => some [longPart? body]
  | '-' :: c :: rest => some (shortParts (c :: rest))
  | _ => none

/-- What `help` asks for, given the arguments after it: one command at most may be named. -/
def helpOn? : List String → Option Request
  | [] => some .help
  | [topic] => if topic = "help" ∨ (Verb.ofName? topic).isSome then some .help else none
  | _ => none

/-- What is asked for when the arguments are over, unless an option still waits for its value. -/
def State.request? (s : State) (waiting : Option Flag) : Option Request :=
  match waiting, s.verb with
  | none, some .run => some (.perform (.run (s.seconds.getD 6)) s.config)
  | none, some .corrections => some (.perform .corrections s.config)
  | none, some .config => some (.perform .config s.config)
  | _, _ => none

/-- Reads arguments, `waiting` being the option whose value comes next. Two dashes end them. -/
def read (s : State) (waiting : Option Flag) : List String → Option Request
  | [] => s.request? waiting
  | ["--"] => s.request? waiting
  | argument :: rest =>
    let follow (next : Next) (waiting : Option Flag) : Option Request :=
      match next with
      | .go s => read s waiting rest
      | .stop r => some r
      | .fail => none
    match waiting with
    | some flag => if isValue argument then follow (s.set flag (some argument)) none else none
    | none =>
      match parts? argument with
      | some parts => follow (s.setAll parts).1 (s.setAll parts).2
      | none =>
        match s.verb, Verb.ofName? argument with
        | none, some verb => read { s with verb := some verb, given := [] } none rest
        | none, none => if argument = "help" then helpOn? rest else none
        | some _, _ => none

/-- What arguments ask for; nothing if they are not in order. -/
def parse (arguments : List String) : Option Request := read ⟨none, none, none, []⟩ none arguments

end MeshBridge.CommandLine
