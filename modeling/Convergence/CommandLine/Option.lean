import Convergence.CommandLine.Basic

/-! The options, and the places on a command line at which each can stand. -/
namespace Convergence.CommandLine

inductive Flag where
  | json
  | help
  | version
deriving DecidableEq, Repr

inductive Field where
  | config
  | token
  | profile
  | interval
  | attempts
deriving DecidableEq, Repr

inductive Opt where
  | flag (f : Flag)
  | field (f : Field)
deriving DecidableEq, Repr

/-- Before the name of a command, or after it. -/
inductive Place where
  | top
  | probe
  | profiles
deriving DecidableEq, Repr

def Place.ofName? : String → Option Place
  | "probe" => some .probe
  | "profiles" => some .profiles
  | _ => none

def Opt.names : Opt → String × Char
  | flag .json => ("json", 'j')
  | flag .help => ("help", 'h')
  | flag .version => ("version", 'V')
  | field .config => ("config", 'c')
  | field .token => ("token", 't')
  | field .profile => ("profile", 'p')
  | field .interval => ("interval", 'i')
  | field .attempts => ("attempts", 'a')

/-- Help, and what concerns every command. -/
def everywhere : List Opt := [.flag .json, .flag .help, .field .config]

def Place.options : Place → List Opt
  | top => .flag .version :: everywhere
  | probe => everywhere ++ [.field .token, .field .profile, .field .interval, .field .attempts]
  | profiles => everywhere

def Place.long? (p : Place) (name : String) : Option Opt :=
  p.options.find? fun o => o.names.1 == name

def Place.short? (p : Place) (c : Char) : Option Opt :=
  p.options.find? fun o => o.names.2 == c

end Convergence.CommandLine
