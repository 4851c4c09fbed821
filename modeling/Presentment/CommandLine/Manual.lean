/-!
# The manual

The manual has a page for the program and one for each of its commands.  A page says what a
thing does and how it is called, and then explains its commands, operands and options, each
section in two columns.
-/

namespace Presentment.CommandLine

/-- A command of the program. -/
inductive Command where
  /-- List the elements of an issuer-signed document. -/
  | namespaces
  /-- Show what a request in one file discloses from the credentials in another. -/
  | disclose
  /-- Cut a message into fragments of a length. -/
  | fragments
  deriving DecidableEq, Repr

/-- What a page is about. -/
inductive Topic where
  | program
  | command (c : Command)
  /-- The command that shows pages. -/
  | manual
  deriving DecidableEq, Repr

/-- Terms with their explanations. -/
structure Section where
  title : String
  entries : List (String × String)

/-- A page of the manual. -/
structure Page where
  purpose : String
  usage : String
  sections : List Section

namespace Command

/-- The word that calls a command. -/
def name : Command → String
  | namespaces => "namespaces"
  | disclose => "disclose"
  | fragments => "fragments"

/-- All commands. -/
def all : List Command := [namespaces, disclose, fragments]

/-- The command that a word calls. -/
def ofName? (word : String) : Option Command :=
  all.find? (·.name == word)

/-- What a command does. -/
def purpose : Command → String
  | namespaces => "Print the namespaces and element identifiers of a credential"
  | disclose =>
    "Print what a request would disclose from the credentials of a transfer info file"
  | fragments => "Split a hex encoded message into the fragments sent over the transport"

end Command

/-! ### Pages -/

/-- The name by which the program is called. -/
def programName : String := "mdoc-transfer"

/-- The name and the version of the program. -/
def versionLine : String := programName ++ " 0.1.0\n"

/-- What the command does that shows pages. -/
def manualPurpose : String := "Print this message or the help of the given subcommand(s)"

/-- The option for a page, where it is the only one with a name of one letter. -/
def helpOption : String × String := ("-h, --help", "Print help")

/-- The page of the program. -/
def Page.ofProgram : Page where
  purpose := "ISO 18013-5 mdoc proximity presentation: transfer session, chunking and "
    ++ "selective disclosure"
  usage := programName ++ " <COMMAND>"
  sections :=
    [⟨"Commands", Command.all.map (fun c => (c.name, c.purpose)) ++ [("help", manualPurpose)]⟩,
     ⟨"Options", [helpOption, ("-V, --version", "Print version")]⟩]

/-- The page of a command. -/
def Page.ofCommand : Command → Page
  | .namespaces =>
    ⟨Command.namespaces.purpose, programName ++ " namespaces <ISSUER_SIGNED>",
      [⟨"Arguments", [("<ISSUER_SIGNED>",
        "Base64 encoded CBOR IssuerSigned, as stored in a transfer info file")]⟩,
       ⟨"Options", [helpOption]⟩]⟩
  | .disclose =>
    ⟨Command.disclose.purpose, programName ++ " disclose <INFO> <REQUEST>",
      [⟨"Arguments", [("<INFO>", "Transfer info JSON file"),
        ("<REQUEST>", "JSON array of items requests")]⟩,
       ⟨"Options", [helpOption]⟩]⟩
  | .fragments =>
    ⟨Command.fragments.purpose, programName ++ " fragments [OPTIONS] <MESSAGE>",
      [⟨"Arguments", [("<MESSAGE>", "")]⟩,
       ⟨"Options", [("    --size <SIZE>", "Largest fragment, header included [default: 512]"),
        helpOption]⟩]⟩

/-- The page of the command that shows pages. -/
def Page.ofManual : Page :=
  ⟨manualPurpose, programName ++ " help [COMMAND]...",
    [⟨"Arguments", [("[COMMAND]...", "Print help for the subcommand(s)")]⟩]⟩

/-- The page on a topic. -/
def Topic.page : Topic → Page
  | program => .ofProgram
  | command c => .ofCommand c
  | manual => .ofManual

/-! ### Texts of pages -/

/-- The number of characters of the longest term. -/
def Section.width (s : Section) : Nat :=
  (s.entries.map (·.1.length)).foldl max 0

/-- A section on lines of its own; the explanations start two blanks behind the longest
term. -/
def Section.toText (s : Section) : String :=
  let line (entry : String × String) : String :=
    "  " ++ entry.1 ++ String.ofList (List.replicate (s.width - entry.1.length) ' ') ++ "  "
      ++ entry.2 ++ "\n"
  s.title ++ ":\n" ++ String.join (s.entries.map line)

/-- A page on lines of its own, with empty lines between its parts. -/
def Page.toText (p : Page) : String :=
  p.purpose ++ "\n\nUsage: " ++ p.usage ++ "\n"
    ++ String.join (p.sections.map (fun s => "\n" ++ s.toText))

end Presentment.CommandLine
