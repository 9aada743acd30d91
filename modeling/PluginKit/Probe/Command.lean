import PluginKit.Probe.Resolution

/-!
# `PluginKit.Probe.Command`: the command line

A command line has a subcommand with options before and after it. An option's value stands in the
argument after it or, for a long name, behind an equals sign; after a short name it may follow at
once. Short names can be joined behind one dash.

* `Argument`, `Subcommand`: the options and the subcommands that they belong to.
* `Progress.step`: takes one argument in.
* `Invocation.parse`: what a command line asks for; none if it is malformed.
-/

set_option autoImplicit false

namespace PluginKit

namespace Probe

/-- The options. -/
inductive Argument where
  | config
  | debug
  | collectdPath
  | collectd54
  | version
  | format
  | root
  | output
  | force
  deriving DecidableEq, Repr

namespace Argument

def long : Argument → String
  | .config => "config"
  | .debug => "debug"
  | .collectdPath => "collectd-path"
  | .collectd54 => "collectd-54"
  | .version => "collectd-version"
  | .format => "format"
  | .root => "root"
  | .output => "output"
  | .force => "force"

/-- The name of one letter. -/
def short? : Argument → Option Char
  | .config => some 'c'
  | .debug => some 'd'
  | .format => some 'f'
  | .root => some 'r'
  | .output => some 'o'
  | _ => none

/-- Flags have no value. -/
def hasValue : Argument → Bool
  | .debug | .collectd54 | .force => false
  | _ => true

/-- Whether the option may be given more than once. -/
def repeats : Argument → Bool
  | .root => true
  | _ => false

/-- The options that may stand before and after the subcommand. -/
def general : List Argument := [.config, .debug]

/-- The options about the layout. -/
def layout : List Argument := [.collectdPath, .collectd54, .version]

end Argument

/-- What the program can do. -/
inductive Subcommand where
  | resolve
  | wrapper
  | check
  | validate
  | config
  deriving DecidableEq, Repr

namespace Subcommand

def all : List Subcommand := [.resolve, .wrapper, .check, .validate, .config]

def name : Subcommand → String
  | .resolve => "resolve"
  | .wrapper => "wrapper"
  | .check => "check"
  | .validate => "validate"
  | .config => "config"

def ofName? (s : String) : Option Subcommand := all.find? fun c => c.name == s

/-- The options that may follow the subcommand. -/
def arguments : Subcommand → List Argument
  | .resolve => Argument.general ++ Argument.layout ++ [.format]
  | .wrapper => Argument.general ++ Argument.layout
  | .check => Argument.general ++ Argument.layout ++ [.root]
  | .validate => Argument.general
  | .config => Argument.general ++ [.output, .force]

end Subcommand

/-! ### Reading arguments -/

/-- Options with their values, in order. Flags have an empty value. -/
abbrev Given := List (Argument × String)

/-- The arguments up to some point. -/
structure Progress where
  /-- What was given before the subcommand. -/
  before : Given
  command : Option Subcommand
  /-- What was given after the subcommand. -/
  after : Given
  /-- The option whose value comes next. -/
  pending : Option Argument
  /-- Whether two dashes have ended the options. -/
  ended : Bool
  deriving DecidableEq, Repr

namespace Progress

def start : Progress := ⟨[], none, [], none, false⟩

/-- The options that may stand here. -/
def allowed (p : Progress) : List Argument :=
  match p.command with
  | none => Argument.general
  | some c => c.arguments

/-- What was given on this side of the subcommand. -/
def given (p : Progress) : Given := if p.command.isNone then p.before else p.after

/-- Takes an option with its value in. An option is given only once on either side of the
subcommand, unless it may be repeated. -/
def record (p : Progress) (a : Argument) (value : String) : Option Progress :=
  if !a.repeats && p.given.any fun g => g.1 = a then none
  else if p.command.isNone then some { p with before := p.before ++ [(a, value)], pending := none }
  else some { p with after := p.after ++ [(a, value)], pending := none }

/-- Takes an option by its long name in. -/
def long (p : Progress) (name : String) (value : Option String) : Option Progress := do
  let a ← p.allowed.find? fun a => a.long == name
  match a.hasValue, value with
  | true, some value => p.record a value
  | true, none => return { p with pending := some a }
  | false, none => p.record a ""
  | false, some _ => none

/-- Takes options by their short names in. What follows an option that has a value is its value. -/
def cluster (p : Progress) : List Char → Option Progress
  | [] => some p
  | c :: rest => do
    let a ← p.allowed.find? fun a => a.short? == some c
    if a.hasValue then
      match rest with
      | [] => return { p with pending := some a }
      | '=' :: value => p.record a (String.ofList value)
      | value => p.record a (String.ofList value)
    else
      let p ← p.record a ""
      p.cluster rest

/-- Whether an argument can be the value of the option before it. A lone dash can. -/
def isValue : List Char → Bool
  | '-' :: _ :: _ => false
  | _ => true

/-- Takes an argument in. -/
def step (p : Progress) (argument : String) : Option Progress :=
  if p.ended then none
  else
    match p.pending with
    | some a => if isValue argument.toList then p.record a argument else none
    | none =>
      match argument.toList with
      | ['-', '-'] => if p.command.isSome then some { p with ended := true } else none
      | '-' :: '-' :: rest =>
        let name := String.ofList (rest.takeWhile (· ≠ '='))
        match rest.dropWhile (· ≠ '=') with
        | [] => p.long name none
        | _ :: value => p.long name (some (String.ofList value))
      | '-' :: c :: rest => p.cluster (c :: rest)
      | _ =>
        if p.command.isSome then none
        else (Subcommand.ofName? argument).map fun c => { p with command := some c }

end Progress

/-! ### Command lines -/

/-- What is to be done. -/
inductive Command where
  /-- Print the layout. -/
  | resolve (overrides : Overrides) (format : Option Format)
  /-- Print the header that includes the others. -/
  | wrapper (overrides : Overrides)
  /-- Look for the headers. -/
  | check (overrides : Overrides) (roots : List String)
  /-- Look through the settings. -/
  | validate
  /-- Write the initial settings to a file. -/
  | config (output : String) (force : Bool)
  deriving DecidableEq, Repr

/-- A command with what holds for all of them. -/
structure Invocation where
  config : String
  debug : Bool
  command : Command
  deriving DecidableEq, Repr

/-- The file for settings when none is named. -/
def defaultFile : String := "cdshim.toml"

namespace Given

/-- The value of an option. -/
def value? (g : Given) (a : Argument) : Option String := g.lookup a

def isGiven (g : Given) (a : Argument) : Bool := (g.lookup a).isSome

/-- All values of an option. -/
def values (g : Given) (a : Argument) : List String := (g.filter fun e => e.1 = a).map (·.2)

def overrides (g : Given) : Overrides where
  collectdPath := value? g .collectdPath
  collectd54 := isGiven g .collectd54
  version := value? g .version

/-- Whether every value is one of its kind: paths are not empty and formats have a name. -/
def fits (g : Given) : Bool :=
  g.all fun e =>
    match e.1 with
    | .config | .collectdPath | .root | .output => e.2 ≠ ""
    | .format => (Format.ofName? e.2).isSome
    | _ => true

end Given

/-- The command of a subcommand with its options. -/
def Command.ofGiven (g : Given) : Subcommand → Command
  | .resolve => .resolve g.overrides ((g.value? .format).bind Format.ofName?)
  | .wrapper => .wrapper g.overrides
  | .check => .check g.overrides (g.values .root)
  | .validate => .validate
  | .config => .config ((g.value? .output).getD defaultFile) (g.isGiven .force)

namespace Invocation

/-- What the arguments ask for. What is given after the subcommand wins. -/
def ofProgress? (p : Progress) : Option Invocation :=
  match p.pending, p.command with
  | none, some c =>
    if p.before.fits && p.after.fits then
      some {
        config := (p.after.value? .config <|> p.before.value? .config).getD defaultFile
        debug := p.after.isGiven .debug || p.before.isGiven .debug
        command := .ofGiven p.after c }
    else none
  | _, _ => none

/-- Reads a command line. -/
def parse (arguments : List String) : Option Invocation :=
  (arguments.foldlM Progress.step .start).bind ofProgress?

end Invocation

end Probe

end PluginKit
