import Presentment.CommandLine.Manual
import Presentment.Fragment

/-!
# Invocations

The command line names a command, its options and its operands.  An option comes before or
after the operands, with its value as the next argument or behind an equals sign, and at
most once; after `--` all arguments are operands.  The operand `-` stands for the standard
input, and no file has an empty name.  Arguments are read from left to right, and the first
one that asks for a page of the manual, if all is well up to there, ends the reading.
-/

namespace Presentment.CommandLine

/-- Where a text comes from. -/
inductive Source where
  | argument (text : String)
  | standardInput
  deriving DecidableEq, Repr

/-- What is to be done. -/
inductive Invocation where
  /-- List the elements of an issuer-signed document. -/
  | namespaces (issuerSigned : Source)
  /-- Show what a request in one file discloses from the credentials in another. -/
  | disclose (info request : String)
  /-- Cut a message into fragments of a length. -/
  | fragments (size : Nat) (message : Source)
  /-- Show a page of the manual. -/
  | help (topic : Topic)
  /-- Show the version of the program. -/
  | version
  deriving DecidableEq, Repr

/-- The number of 64 bits that a text stands for; it may have a plus sign in front. -/
def number? (text : String) : Option Nat :=
  let ds := match text.toList with
    | '+' :: rest => rest
    | cs => cs
  if ds.isEmpty || !ds.all Char.isDigit then none
  else
    let n := ds.foldl (fun n d => 10 * n + (d.toNat - '0'.toNat)) 0
    if n < 0x10000000000000000 then some n else none

/-! ### Kinds of arguments -/

/-- What follows the name of the option for the length of fragments and an equals sign. -/
def sizeValue? (argument : String) : Option String :=
  let start := "--size=".toList
  if start.isPrefixOf argument.toList then
    some (String.ofList (argument.toList.drop start.length))
  else none

/-- Whether an argument is an operand rather than an option. -/
def isOperand (argument : String) : Bool :=
  argument == "-" || argument.toList.head? != some '-'

/-- Whether an argument is an option without a value: two hyphens and its name, or a hyphen
and its letter, behind which anything may follow. -/
def isFlag (name : String) (letter : Char) (argument : String) : Bool :=
  argument == "--" ++ name || ['-', letter].isPrefixOf argument.toList

/-- Whether an argument asks for a page of the manual. -/
def asksForHelp (argument : String) : Bool :=
  isFlag "help" 'h' argument

/-- Whether an argument asks for the version. -/
def asksForVersion (argument : String) : Bool :=
  isFlag "version" 'V' argument

/-! ### Arguments of a command -/

namespace Command

/-- How many operands a command takes. -/
def arity : Command → Nat
  | namespaces => 1
  | disclose => 2
  | fragments => 1

/-- Whether a command takes an operand: the empty one is the name of no file. -/
def takes (c : Command) (operand : String) : Bool :=
  c != disclose || !operand.isEmpty

end Command

/-- What the arguments of a command come to. -/
inductive Sorted where
  | arguments (size : Option Nat) (operands : List String)
  /-- A page of the manual is asked for. -/
  | help
  deriving DecidableEq, Repr

namespace Sorted

/-- Adds an operand in front. -/
def withOperand (operand : String) : Sorted → Sorted
  | arguments size operands => arguments size (operand :: operands)
  | help => help

/-- Adds the length of fragments. -/
def withSize (size : Nat) : Sorted → Sorted
  | arguments _ operands => arguments (some size) operands
  | help => help

end Sorted

/-- Sorts the operands behind `--`, of which there are at most `free`. -/
def sortOperands? (c : Command) (free : Nat) (operands : List String) : Option Sorted :=
  if operands.length ≤ free ∧ operands.all c.takes then some (.arguments none operands)
  else none

/-- Sorts the arguments of a command; `free` operands are still to come at most, and the
length of fragments only if `hasSize`. -/
def sort? (c : Command) (free : Nat) (hasSize : Bool) : List String → Option Sorted
  | [] => some (.arguments none [])
  | "--" :: operands => sortOperands? c free operands
  | "--size" :: value :: rest => do
    guard hasSize
    let size ← number? value
    return (← sort? c free false rest).withSize size
  | argument :: rest =>
    if asksForHelp argument then some .help
    else if isOperand argument then do
      guard (0 < free ∧ c.takes argument)
      return (← sort? c (free - 1) hasSize rest).withOperand argument
    else do
      guard hasSize
      let size ← number? (← sizeValue? argument)
      return (← sort? c free false rest).withSize size

/-! ### Invocations of commands -/

namespace Source

def ofOperand (operand : String) : Source :=
  if operand = "-" then standardInput else argument operand

end Source

/-- The length of fragments that are not given one. -/
def defaultSize : Nat := 512

/-- The topic that words name. -/
def Topic.ofWords? : List String → Option Topic
  | [] => some .program
  | ["help"] => some .manual
  | [word] => (Command.ofName? word).map .command
  | _ => none

/-- The invocation of a command. -/
def Invocation.ofSorted? (c : Command) : Sorted → Option Invocation
  | .help => some (.help (.command c))
  | .arguments size operands => match c, operands with
    | .namespaces, [issuerSigned] => some (.namespaces (.ofOperand issuerSigned))
    | .disclose, [info, request] => some (.disclose info request)
    | .fragments, [message] => some (.fragments (size.getD defaultSize) (.ofOperand message))
    | _, _ => none

/-- The invocation that arguments stand for. -/
def Invocation.ofArguments? : List String → Option Invocation
  | [] => none
  | word :: rest =>
    if asksForHelp word then some (.help .program)
    else if asksForVersion word then some .version
    else if word = "help" then (Topic.ofWords? rest).map .help
    else do
      let c ← Command.ofName? word
      Invocation.ofSorted? c (← sort? c c.arity (c == .fragments) rest)

end Presentment.CommandLine
