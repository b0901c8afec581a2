/-
# The command line

The first words may be flags; then comes a command, and after it the options of that command. An
option has a long name and a letter. Its value is a word of its own, which must not look like an
option, or is attached to the option, with an equals sign at will after the letter and always after
the long name. Letters of flags can stand together. A word that is not understood, an option
without a value, one that is given twice or one whose value is not understood makes the whole line
a usage error. The words are read in order, and asking for the version ends the reading.

Key definitions: `CommandLine.Command`, `CommandLine.Stop`, `CommandLine.parse`,
`CommandLine.run`.
-/
import LongPoll.Decimal.Literal
import LongPoll.Simulation

namespace LongPoll.CommandLine

def version : String := "0.3.0"

/-- What the program is asked to do. -/
inductive Command
  | simulate (options : Simulation.Options) (format : String)
  | version

/-- Why a line is not read to its end. -/
inductive Stop
  | usage
  | showVersion
deriving DecidableEq

structure Output where
  /-- 0 if all is well, 1 if the command failed, 2 for a usage error. -/
  exit : Nat
  stdout : String
  error : Option String

/-! ### Words -/

inductive Key
  | verbose
  | showVersion
  | requests
  | lossRate
  | changeEvery
  | seed
  | maxBuffered
  | format
deriving DecidableEq

namespace Key

def letter : Key → Char
  | verbose => 'v'
  | showVersion => 'V'
  | requests => 'r'
  | lossRate => 'l'
  | changeEvery => 'c'
  | seed => 's'
  | maxBuffered => 'm'
  | format => 'f'

def longName : Key → String
  | verbose => "verbose"
  | showVersion => "version"
  | requests => "requests"
  | lossRate => "loss-rate"
  | changeEvery => "change-every"
  | seed => "seed"
  | maxBuffered => "max-buffered"
  | format => "format"

/-- The option stands without a value. -/
def isFlag (k : Key) : Bool := k == verbose || k == showVersion

end Key

/-- The options before the command. -/
def leadingKeys : List Key := [.verbose, .showVersion]

def simulateKeys : List Key :=
  [.verbose, .requests, .lossRate, .changeEvery, .seed, .maxBuffered, .format]

def versionKeys : List Key := [.verbose]

/-- Options with their values, each at most once. -/
abbrev Given : Type := List (Key × String)

/-- Adds an option that is not to come twice. -/
def add (given : Given) (key : Key) (value : String) : Except Stop Given :=
  if key = .showVersion then .error .showVersion
  else if given.any (·.1 == key) then .error .usage
  else .ok (given ++ [(key, value)])

def looksLikeOption (word : String) : Bool := "-".isPrefixOf word && word != "-"

def fromNext (given : Given) (key : Key) : List String → Except Stop (Given × List String)
  | value :: rest =>
    if looksLikeOption value then .error .usage else (add given key value).map fun g => (g, rest)
  | [] => .error .usage

/-- Reads the letters of one word; the words after it may be needed for a value. -/
def letters (keys : List Key) (rest : List String) (given : Given) :
    List Char → Except Stop (Given × List String)
  | [] => .ok (given, rest)
  | c :: cs =>
    match keys.find? (·.letter == c) with
    | none => .error .usage
    | some key =>
      if key.isFlag then
        match add given key "" with
        | .ok given => letters keys rest given cs
        | .error stop => .error stop
      else
        match cs with
        | [] => fromNext given key rest
        | '=' :: value => (add given key (String.ofList value)).map fun g => (g, rest)
        | value => (add given key (String.ofList value)).map fun g => (g, rest)

/-- Reads a long option after its two dashes. -/
def long (keys : List Key) (rest : List String) (given : Given) (cs : List Char) :
    Except Stop (Given × List String) :=
  let name := String.ofList (cs.takeWhile (· != '='))
  match keys.find? (·.longName == name), cs.dropWhile (· != '=') with
  | some key, '=' :: value =>
    if key.isFlag then .error .usage
    else (add given key (String.ofList value)).map fun g => (g, rest)
  | some key, _ =>
    if key.isFlag then (add given key "").map fun g => (g, rest) else fromNext given key rest
  | none, _ => .error .usage

/-- Reads the options at the front of the words, and leaves the words from the first one on that
is no option. Two dashes alone end the options too, and are passed over if nothing follows. Every
option takes a word, so as much fuel as there are words is enough. -/
def options (keys : List Key) (given : Given) :
    Nat → List String → Except Stop (Given × List String)
  | _, [] => .ok (given, [])
  | 0, words => .ok (given, words)
  | fuel + 1, word :: rest =>
    match word.toList with
    | ['-', '-'] => if rest.isEmpty then .ok (given, []) else .error .usage
    | '-' :: '-' :: cs => do
      let (given, rest) ← long keys rest given cs
      options keys given fuel rest
    | '-' :: c :: cs => do
      let (given, rest) ← letters keys rest given (c :: cs)
      options keys given fuel rest
    | _ => .ok (given, word :: rest)

/-! ### Commands -/

def value {α : Type} (given : Given) (key : Key) (read : String → Option α) (fallback : α) :
    Except Stop α :=
  match given.find? (·.1 == key) with
  | none => .ok fallback
  | some (_, text) =>
    match read text with
    | some a => .ok a
    | none => .error .usage

def simulate (given : Given) : Except Stop Command := do
  let requests ← value given .requests Literal.count? 1000
  let lossRate ← value given .lossRate Literal.rate? (.ofDecimal false 2 (-1))
  let changeEvery ← value given .changeEvery Literal.count? 10
  let seed ← value given .seed Literal.count? 0
  let maxBuffered ← value given .maxBuffered (fun s => (Literal.count? s).map some) none
  let format ← value given .format some "text"
  return .simulate { requests, lossRate, changeEvery, seed := .ofNat seed, maxBuffered } format

/-- The options of a command, which take all the words after it. -/
def allOptions (keys : List Key) (words : List String) : Except Stop Given := do
  match ← options keys [] words.length words with
  | (given, []) => return given
  | _ => .error .usage

/-- The command of a line of words. -/
def parse (words : List String) : Except Stop Command := do
  let (_, rest) ← options leadingKeys [] words.length words
  match rest with
  | "simulate" :: rest => simulate (← allOptions simulateKeys rest)
  | "version" :: rest =>
    let _ ← allOptions versionKeys rest
    return .version
  | _ => .error .usage

def Command.run : Command → Output
  | simulate options format =>
    match Simulation.run options with
    | .ok report =>
      let stdout := if format = "json" then Json.layout report.members ++ "\n" else report.text
      { exit := 0, stdout, error := none }
    | .error e => { exit := 1, stdout := "", error := some e.name }
  | version =>
    { exit := 0, error := none
      stdout := "pollsync CLI v" ++ CommandLine.version ++ "\npollsync conn v"
        ++ CommandLine.version ++ "\n" }

/-- What the program says to a line of words. -/
def run (words : List String) : Output :=
  match parse words with
  | .ok command => command.run
  | .error .usage => { exit := 2, stdout := "", error := none }
  | .error .showVersion => { exit := 0, stdout := "pollsync " ++ version ++ "\n", error := none }

end LongPoll.CommandLine
