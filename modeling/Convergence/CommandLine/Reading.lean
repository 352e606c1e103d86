import Convergence.CommandLine.Option
import Convergence.Decimal.Reading

/-! Command lines, read from the left. A value is looked at when the next thing on the
line is understood, so that of two faults the one that shows first is told. -/
namespace Convergence.CommandLine

/-- What has been read at one place. -/
structure Progress where
  json : Bool
  values : List (Field × String)
  url : Option String
  /-- The last option, whose value has not been looked at or has not come yet. -/
  pending : Option (Field × Option String)
deriving DecidableEq, Repr

namespace Progress

def start : Progress := { json := false, values := [], url := none, pending := none }

def value? (p : Progress) (f : Field) : Option String :=
  (p.values.find? (·.1 == f)).map (·.2)

end Progress

/-! ### Values -/

def wordLimit : Nat := 18446744073709551615

/-- Seconds are a word without a sign, or with a plus sign. -/
def interval? (s : String) : Option UInt64 :=
  let digits :=
    match s.toList with
    | '+' :: rest => rest
    | chars => chars
  ((Decimal.nat? digits).filter (· ≤ wordLimit)).map (·.toUInt64)

/-- Numbers of attempts may have any sign, but are not below zero. -/
def attempts? (s : String) : Option UInt32 :=
  ((Decimal.int? s.toList).filter fun n => 0 ≤ n && n ≤ 4294967295).map fun n =>
    n.toNat.toUInt32

def fault? (f : Field) (value : String) : Option Stop :=
  match f with
  | .config => if value.isEmpty then some .emptyValue else none
  | .interval => if (interval? value).isSome then none else some .invalidNumber
  | .attempts => if (attempts? value).isSome then none else some .invalidNumber
  | .token | .profile => none

namespace Progress

def give (p : Progress) (f : Field) (value : String) : Except Stop Progress :=
  if (p.value? f).isSome then .error .repeated
  else
    match fault? f value with
    | some stop => .error stop
    | none => .ok { p with values := (f, value) :: p.values }

def settle (p : Progress) : Except Stop Progress :=
  match p.pending with
  | none => .ok p
  | some (_, none) => .error .emptyValue
  | some (f, some value) => ({ p with pending := none }).give f value

def raise (p : Progress) (f : Flag) : Except Stop Progress := do
  let p ← p.settle
  match f with
  | .help => .error .help
  | .version => .error .version
  | .json => if p.json then .error .repeated else .ok { p with json := true }

def expect (p : Progress) (f : Field) : Except Stop Progress := do
  return { ← p.settle with pending := some (f, none) }

def expected? (p : Progress) : Option Field :=
  match p.pending with
  | some (f, none) => some f
  | _ => none

end Progress

/-! ### Arguments -/

/-- Letters after one dash: flags, and at last perhaps an option with its value. -/
def readShort (place : Place) : List Char → Progress → Except Stop Progress
  | [], p => .ok p
  | c :: rest, p =>
    match place.short? c with
    | none => .error .unknownArgument
    | some (.flag f) =>
      match p.raise f with
      | .ok p => readShort place rest p
      | .error stop => .error stop
    | some (.field f) =>
      match rest with
      | [] => p.expect f
      | '=' :: value => do (← p.settle).give f (String.ofList value)
      | value => do (← p.settle).give f (String.ofList value)

/-- A name after two dashes, perhaps with a value after an equals sign. -/
def readLong (place : Place) (chars : List Char) (p : Progress) : Except Stop Progress :=
  let isName (c : Char) : Bool := c != '='
  match place.long? (String.ofList (chars.takeWhile isName)), chars.dropWhile isName with
  | none, _ => .error .unknownArgument
  | some (.flag f), [] => p.raise f
  | some (.flag _), _ => .error .needlessValue
  | some (.field f), [] => p.expect f
  | some (.field f), _ :: value => do (← p.settle).give f (String.ofList value)

/-- An argument that is no option. After two dashes a command cannot be named. -/
def readPlain (place : Place) (escaped : Bool) (arg : String) (p : Progress) :
    Except Stop Progress :=
  match place with
  | .top =>
    if escaped && ((Place.ofName? arg).isSome || arg == "help") then .error .unknownArgument
    else .error .unknownCommand
  | .probe =>
    if p.url.isSome then .error .unknownArgument
    else do return { ← p.settle with url := some arg }
  | .profiles => .error .unknownArgument

def readArgument (place : Place) (arg : String) (p : Progress) : Except Stop Progress :=
  match arg.toList with
  | '-' :: '-' :: name => readLong place name p
  | '-' :: c :: rest => readShort place (c :: rest) p
  | _ =>
    match p.expected? with
    | some f => .ok { p with pending := some (f, some arg) }
    | none => readPlain place false arg p

def readAfter (place : Place) : Bool → List String → Progress → Except Stop Progress
  | _, [], p => .ok p
  | true, arg :: rest, p => do readAfter place true rest (← readPlain place true arg p)
  | false, "--" :: rest, p => readAfter place true rest p
  | false, arg :: rest, p => do readAfter place false rest (← readArgument place arg p)

def readHelp : List String → Stop
  | [] => .help
  | arg :: rest =>
    if (Place.ofName? arg).isSome || arg == "help" then
      if rest.isEmpty then .help else .unknownCommand
    else .unknownCommand

/-- Everything up to the name of the command, then that command and what follows it. -/
def readTop : Bool → List String → Progress →
    Except Stop (Progress × Option (Place × List String))
  | _, [], p => .ok (p, none)
  | true, arg :: rest, p => do readTop true rest (← readPlain .top true arg p)
  | false, arg :: rest, p =>
    match p.expected?, Place.ofName? arg with
    | none, some place => .ok (p, some (place, rest))
    | none, none =>
      if arg = "help" then .error (readHelp rest)
      else if arg = "--" then readTop true rest p
      else do readTop false rest (← readArgument .top arg p)
    | some _, _ =>
      if arg = "--" then readTop true rest p
      else do readTop false rest (← readArgument .top arg p)

/-! ### The whole line -/

structure Defaults where
  config : Option String
  token : Option String
deriving DecidableEq, Repr

def Defaults.ofEnvironment (env : List (String × String)) : Defaults :=
  { config := (env.find? (·.1 == "KUBEWAIT_CONFIG")).map (·.2)
    token := (env.find? (·.1 == "KUBEWAIT_TOKEN")).map (·.2) }

/-- Looks at the last value, then at the file that the environment names. -/
def close (d : Defaults) (p : Progress) : Except Stop Progress := do
  let p ← p.settle
  match p.value? .config, d.config with
  | none, some "" => .error .emptyValue
  | _, _ => .ok p

def probeRequest? (d : Defaults) (p : Progress) : Except Stop Command :=
  match p.url with
  | none => .error .missingUrl
  | some url =>
    .ok <| .probe
      { url
        token := p.value? .token <|> d.token
        profile := (p.value? .profile).getD "http_probe"
        intervalSecs := (p.value? .interval).bind interval?
        attempts := (p.value? .attempts).bind attempts? }

def command (d : Defaults) (place : Place) (p : Progress) : Except Stop Command :=
  match place with
  | .probe => probeRequest? d p
  | _ => .ok .profiles

def readLine (d : Defaults) (args : List String) : Except Stop Invocation := do
  match ← readTop false args .start with
  | (top, none) =>
    let top ← close d top
    if !top.json && top.values.isEmpty && d.config.isNone then .error .nothingAsked
    else .error .missingCommand
  | (top, some (place, rest)) =>
    let inner ← close d (← readAfter place false rest .start)
    let command ← command d place inner
    let top ← close d top
    return {
      json := top.json || inner.json
      config := inner.value? .config <|> top.value? .config <|> d.config
      command }

end Convergence.CommandLine

namespace Convergence

/-- The command line of a program, after the program's own name. -/
def Invocation.ofArguments (env : List (String × String)) (args : List String) :
    Except Stop Invocation :=
  CommandLine.readLine (.ofEnvironment env) args

end Convergence
