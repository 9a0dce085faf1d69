import ServiceStubs.Text.IntegerNumeral
import ServiceStubs.Text.Lines
import ServiceStubs.Text.Quoted

/-!
# Command line arguments

A command line is a list of words. A word that begins with a hyphen names an option, unless it
is a hyphen alone, a negative number or a word with a blank in it; a long option may be shortened
as long as it stays unique, and short ones may be joined. All other words are arguments. Words
between options form runs, and a run is either taken as a whole or not at all: the first run gives
the source, and the symbols too if it has more than one word; a later run gives the symbols that
are still missing. After a double hyphen, which is no argument itself, there are no more options.

Words are classified before any of them is read, and they are read from left to right until one
of them ends the reading: a request for help or a mistake.

A double hyphen that is attached to an option, as in `--suffix=--`, is no text either: the option
is given, but without a value.
-/

namespace ServiceStubs.Command

/-! ## Options -/

/-- What an option is about. -/
inductive Setting
  | help
  | outputDir
  | generator
  | suffix
  | extension
  | indent
  | lineFeeds
  | verbose
deriving DecidableEq, Repr, Inhabited

namespace Setting

/-- All settings in the order of the help text. -/
def all : List Setting :=
  [help, outputDir, generator, suffix, extension, indent, lineFeeds, verbose]

/-- The spellings of an option in the order of the help text. -/
def spellings : Setting → List String
  | help => ["-h", "--help"]
  | outputDir => ["--output-dir", "-o"]
  | generator => ["--generator", "-g"]
  | suffix => ["--suffix"]
  | extension => ["--extension"]
  | indent => ["--indent"]
  | lineFeeds => ["--lf"]
  | verbose => ["--verbose", "-v"]

/-- How messages name an option. -/
def title (setting : Setting) : String := Text.joined "/" setting.spellings

/-- Whether an option takes a value. -/
def takesValue : Setting → Bool
  | help | lineFeeds | verbose => false
  | outputDir | generator | suffix | extension | indent => true

/-- All spellings with what they are about. -/
def table : List (String × Setting) :=
  all.flatMap fun setting => setting.spellings.map fun spelling => (spelling, setting)

/-- The setting that a word spells in full. -/
def ofSpelling? (word : String) : Option Setting := table.lookup word

end Setting

/-! ## Words -/

/-- A word that names an option. -/
structure OptionWord where
  setting : Setting
  /-- The option is spelled by one letter. -/
  isShort : Bool
  /-- What the word holds after the option. -/
  attached : Option String := none
deriving DecidableEq, Repr, Inhabited

/-- What a word is taken for. -/
inductive Word
  | argument (text : String)
  | named (option : OptionWord)
  /-- An option that does not exist. -/
  | unknown (text : String)
  /-- The double hyphen after which there are no options. -/
  | separator
deriving DecidableEq, Repr, Inhabited

/-- The word that ends the options. -/
def separatorText : String := "--"

/-- Why the reading of a command line ends early. -/
inductive Stop
  /-- Help is asked for. -/
  | help
  /-- The command line is refused with a message. -/
  | refused (message : String)
deriving DecidableEq, Repr, Inhabited

/-- A refusal that is about one option. -/
def Setting.refuse {α : Type} (setting : Setting) (message : String) : Except Stop α :=
  .error (.refused ("argument " ++ setting.title ++ ": " ++ message))

/-- Whether a spelling is that of a short option. -/
def isShortSpelling (spelling : String) : Bool := !Text.opensWith "--" spelling

/-- Whether a text is a negative number: a hyphen and digits of any script, with a point among
them or not. A line feed may follow. -/
def isNegativeNumber (text : String) : Bool :=
  match text.toList with
  | '-' :: rest =>
    let digits := if rest.getLast? = some '\n' then rest.dropLast else rest
    match digits.dropWhile Text.isDecimalDigit with
    | [] => !digits.isEmpty
    | '.' :: fraction => !fraction.isEmpty && fraction.all Text.isDecimalDigit
    | _ => false
  | _ => false

/-- A word as an option with the value after its first equals sign, when what is before it spells
an option in full. -/
def spelledWithValue? (word : String) : Option OptionWord :=
  let (spelling, value) := Text.cutAtFirst '=' word
  if word.toList.contains '=' then
    (Setting.ofSpelling? spelling).map fun setting =>
      ⟨setting, isShortSpelling spelling, some value⟩
  else none

/-- The options that a shortened word may mean, with their spellings. -/
def candidates (word : String) : List (String × OptionWord) :=
  if Text.opensWith "--" word then
    let (opening, value) := Text.cutAtFirst '=' word
    let attached := if word.toList.contains '=' then some value else none
    Setting.table.filterMap fun (spelling, setting) =>
      if Text.opensWith opening spelling then
        some (spelling, ⟨setting, isShortSpelling spelling, attached⟩)
      else none
  else
    let letter := String.ofList (word.toList.take 2)
    let rest := String.ofList (word.toList.drop 2)
    (Setting.table.filter fun entry => entry.1 = letter).map fun (spelling, setting) =>
      (spelling, ⟨setting, true, some rest⟩)

/-- What a word is taken for before a double hyphen. -/
def classify (word : String) : Except Stop Word :=
  if !Text.opensWith "-" word || word = "-" then .ok (.argument word)
  else match Setting.ofSpelling? word with
    | some setting => .ok (.named ⟨setting, isShortSpelling word, none⟩)
    | none =>
      match spelledWithValue? word with
      | some option => .ok (.named option)
      | none =>
        match candidates word with
        | [(_, option)] => .ok (.named option)
        | [] =>
          if isNegativeNumber word || word.toList.contains ' ' then .ok (.argument word)
          else .ok (.unknown word)
        | several => .error (.refused ("ambiguous option: " ++ word ++ " could match " ++
            Text.commaJoined (several.map Prod.fst)))

/-- What the words of a command line are taken for. -/
def classifyAll : List String → Except Stop (List Word)
  | [] => .ok []
  | word :: rest =>
    if word = separatorText then .ok (.separator :: rest.map .argument)
    else do
      let first ← classify word
      let others ← classifyAll rest
      return first :: others

/-! ## Requests -/

/-- What a command line asks for. An option that is given without a value is `none`. -/
structure Request where
  /-- The module: a path or a name. -/
  source : String
  /-- The services within the module. -/
  symbols : List String
  outputDir : Option String := some "generated"
  generator : Option String := some "typescript"
  suffix : Option String := some "rpc"
  extension : Option String := some "ts"
  indent : Option Int := some 4
  usesLineFeeds : Bool := false
  isVerbose : Bool := false
deriving DecidableEq, Repr, Inhabited

/-- The part of a command line that has been read. -/
structure Progress where
  source : Option String := none
  symbols : Option (List String) := none
  /-- Values of options; the source and the symbols are not set here. -/
  options : Request := { source := "", symbols := [] }
  /-- Words that nothing takes. -/
  extras : List String := []
  /-- The run of words that is being read. -/
  pending : List Word := []
deriving Inhabited

namespace Progress

/-! ## Runs of arguments -/

/-- The text of a word in a run. -/
def textOf : Word → String
  | .argument text | .unknown text => text
  | _ => separatorText

/-- The values of some words of a run: their texts without the first double hyphen. -/
def values (words : List Word) : List String := (words.map textOf).erase separatorText

/-- Whether a word is an argument. -/
def isArgument : Word → Bool
  | .argument _ => true
  | _ => false

/-- The words of a run that give the source, with the double hyphens around it, and the others. -/
def splitSource (run : List Word) : List Word × List Word :=
  let front := run.takeWhile (! isArgument ·)
  let rest := run.dropWhile (! isArgument ·)
  let behind := (rest.drop 1).takeWhile (! isArgument ·)
  (front ++ rest.take 1 ++ behind, (rest.drop 1).dropWhile (! isArgument ·))

/-- Read the pending run, if there is one. -/
def endRun (progress : Progress) : Progress :=
  let run := progress.pending
  let rest := { progress with pending := [] }
  let refused := { rest with extras := rest.extras ++ run.map textOf }
  if !run.any isArgument then refused
  else match progress.source, progress.symbols with
    | none, _ =>
      let (first, others) := splitSource run
      let given := { rest with source := (values first).head? }
      if others.isEmpty then given else { given with symbols := some (values others) }
    | some _, none => { rest with symbols := some (values run) }
    | some _, some _ => refused

/-- Add a word to the pending run. -/
def hold (progress : Progress) (word : Word) : Progress :=
  { progress with pending := progress.pending ++ [word] }

/-! ## Options -/

/-- Options with the words that give their values, in order. -/
abbrev Given := List (Setting × String)

/-- The value that an option is given by a word; a double hyphen is none. -/
def valueOf (word : String) : Option String := if word = separatorText then none else some word

/-- The width that a value of the option for it tells. -/
def indentOf : Option String → Except Stop (Option Int)
  | none => .ok none
  | some value =>
    match Text.integer? value with
    | some indent => .ok (some indent)
    | none => Setting.indent.refuse ("invalid int value: " ++ Text.quoted value)

/-- Set an option. -/
def give (progress : Progress) : Setting × String → Except Stop Progress
  | (.help, _) => .error .help
  | (.outputDir, word) =>
    .ok { progress with options := { progress.options with outputDir := valueOf word } }
  | (.generator, word) =>
    .ok { progress with options := { progress.options with generator := valueOf word } }
  | (.suffix, word) =>
    .ok { progress with options := { progress.options with suffix := valueOf word } }
  | (.extension, word) =>
    .ok { progress with options := { progress.options with extension := valueOf word } }
  | (.indent, word) => do
    let indent ← indentOf (valueOf word)
    return { progress with options := { progress.options with indent } }
  | (.lineFeeds, _) =>
    .ok { progress with options := { progress.options with usesLineFeeds := true } }
  | (.verbose, _) => .ok { progress with options := { progress.options with isVerbose := true } }

/-- Set options in order. -/
def giveAll (progress : Progress) (given : Given) : Except Stop Progress :=
  given.foldlM give progress

/-- What is read off one word that names options. -/
structure WordReading where
  given : Given := []
  /-- An option whose value is the next word. -/
  waiting : Option Setting := none

/-- The refusal of a value after an option that takes none. -/
def ignored {α : Type} (setting : Setting) (value : String) : Except Stop α :=
  setting.refuse ("ignored explicit argument " ++ Text.quoted value)

/-- Read the letters after a short option that takes no value: further short options, the last
of which may take what is left as its value. `before` holds the options read so far. -/
def readLetters (before : Given) (setting : Setting) : List Char → Except Stop WordReading
  | [] => .ok { given := before ++ [(setting, "")] }
  | letter :: rest =>
    match Setting.ofSpelling? (String.ofList ['-', letter]) with
    | none => ignored setting (String.ofList (letter :: rest))
    | some next =>
      let given := before ++ [(setting, "")]
      if !next.takesValue then readLetters given next rest
      else if rest.isEmpty then .ok { given, waiting := some next }
      else .ok { given := given ++ [(next, String.ofList rest)] }

/-- Read a word that names an option. -/
def readOption (option : OptionWord) : Except Stop WordReading :=
  match option.attached with
  | none =>
    if option.setting.takesValue then .ok { waiting := some option.setting }
    else .ok { given := [(option.setting, "")] }
  | some value =>
    if option.setting.takesValue then .ok { given := [(option.setting, value)] }
    else if option.isShort && value ≠ "" then readLetters [] option.setting value.toList
    else ignored option.setting value

/-! ## Command lines -/

/-- Read words in order. -/
def readWords (progress : Progress) : List Word → Except Stop Progress
  | [] => .ok progress.endRun
  | .argument text :: rest => readWords (progress.hold (.argument text)) rest
  | .separator :: rest => readWords (progress.hold .separator) rest
  | .unknown text :: rest =>
    let progress := progress.endRun
    readWords { progress with extras := progress.extras ++ [text] } rest
  | .named option :: rest => do
    let progress := progress.endRun
    let reading ← readOption option
    match reading.waiting with
    | none =>
      let progress ← progress.giveAll reading.given
      readWords progress rest
    | some setting =>
      match rest with
      | .argument value :: rest => do
        let progress ← progress.giveAll (reading.given ++ [(setting, value)])
        readWords progress rest
      | _ => setting.refuse "expected one argument"

/-- The arguments that are still missing. -/
def missing (progress : Progress) : List String :=
  (if progress.source.isNone then ["source"] else []) ++
    if progress.symbols.isNone then ["symbols"] else []

/-- The request of a command line that has been read. -/
def request (progress : Progress) : Except Stop Request :=
  match progress.source, progress.symbols with
  | some source, some symbols =>
    if progress.extras.isEmpty then .ok { progress.options with source, symbols }
    else .error (.refused ("unrecognized arguments: " ++ Text.joined " " progress.extras))
  | _, _ => .error (.refused ("the following arguments are required: " ++
      Text.commaJoined progress.missing))

end Progress

/-- The request of a command line. -/
def Request.ofWords (words : List String) : Except Stop Request := do
  let progress ← Progress.readWords {} (← classifyAll words)
  progress.request

end ServiceStubs.Command
