import Skeletal.Text.Basic

/-!
# Arguments

The arguments of the command: two positionals, a switch and a repeatable option. An option may be
shortened as long as only one is meant, a value may follow a long option after an equals sign,
and two dashes alone end the options. All arguments are classified before any is acted on.
-/

set_option autoImplicit false

namespace Skeletal.CommandLine

/-- What an option does. -/
inductive OptionKind where
  | help
  | archive
  | sourcePath
  deriving DecidableEq, Repr

/-- Spellings of the options. -/
def spellings : List (String × OptionKind) :=
  [("-h", .help), ("--help", .help), ("-jar", .archive), ("-sp", .sourcePath),
    ("--source-path", .sourcePath)]

/-- All spellings of an option, as messages show them. -/
def OptionKind.shown (kind : OptionKind) : String :=
  "/".intercalate ((spellings.filter fun s => s.2 = kind).map (·.1))

/-- Value written into the same argument as its option, and whether after an equals sign. -/
structure Attached where
  afterEquals : Bool
  value : String
  deriving DecidableEq, Repr

/-- Reading of an argument as an option. -/
structure OptionReading where
  spelling : String
  kind : OptionKind
  attached : Option Attached := none
  deriving DecidableEq, Repr

/-- Class of an argument: a positional, the end of the options, an option, or something that
looks like an option and is none. -/
inductive Word where
  | positional (text : String)
  | endOfOptions
  | option (reading : OptionReading)
  | unknown (text : String)
  deriving DecidableEq, Repr

/-- Ends of reading the arguments without a result. -/
inductive Stop where
  | help
  | usage (message : String)
  deriving DecidableEq, Repr

/-- Parts of a text before and after its first equals sign. -/
def splitEquals (text : String) : String × Option String :=
  let cs := text.toList
  let before := cs.takeWhile (· ≠ '=')
  match cs.drop before.length with
  | _ :: value => (String.ofList before, some (String.ofList value))
  | [] => (text, none)

/-- Whether a text starts with another. -/
def startsWith (start text : String) : Bool := start.toList.isPrefixOf text.toList

/-- Readings of an argument as a shortened option or as a one-letter option with something
behind it. -/
def shortenedReadings (text : String) : List OptionReading :=
  if startsWith "--" text then
    let (start, value) := splitEquals text
    (spellings.filter fun s => startsWith start s.1).map fun s =>
      ⟨s.1, s.2, value.map fun v => ⟨true, v⟩⟩
  else
    let letter := String.ofList (text.toList.take 2)
    spellings.filterMap fun s =>
      if s.1 = letter then some ⟨s.1, s.2, some ⟨false, String.ofList (text.toList.drop 2)⟩⟩
      else if startsWith text s.1 then some ⟨s.1, s.2, none⟩
      else none

/-- Whether all characters are decimal digits, of which there is at least one. -/
def isNumeral (cs : List Char) : Bool :=
  !cs.isEmpty && cs.all fun c => (Text.digitValue? c).isSome

/-- Whether an argument is a number below zero, with or without a fraction. -/
def isNegativeNumber (text : String) : Bool :=
  let cs := text.toList
  let cs := if cs.getLast? = some '\n' then cs.dropLast else cs
  match cs with
  | '-' :: digits =>
    let whole := digits.takeWhile (· ≠ '.')
    match digits.drop whole.length with
    | [] => isNumeral whole
    | _ :: fraction => (whole.isEmpty || isNumeral whole) && isNumeral fraction
  | _ => false

/-- Class of an argument before the end of the options. -/
def classify (text : String) : Except Stop Word :=
  if text = "--" then .ok .endOfOptions
  else if !startsWith "-" text || text = "-" then .ok (.positional text)
  else
    match spellings.lookup text with
    | some kind => .ok (.option ⟨text, kind, none⟩)
    | none =>
      let (before, value) := splitEquals text
      match value, spellings.lookup before with
      | some v, some kind => .ok (.option ⟨before, kind, some ⟨true, v⟩⟩)
      | _, _ =>
        match shortenedReadings text with
        | [reading] => .ok (.option reading)
        | [] =>
          if isNegativeNumber text || text.toList.contains ' ' then .ok (.positional text)
          else .ok (.unknown text)
        | readings =>
          let matching := ", ".intercalate (readings.map (·.spelling))
          .error (.usage s!"ambiguous option: {text} could match {matching}")

/-- Classes of arguments. All after the end of the options are positionals. -/
def classifyAll : List String → Except Stop (List Word)
  | [] => .ok []
  | text :: rest => do
    match ← classify text with
    | .endOfOptions => return .endOfOptions :: rest.map .positional
    | word => return word :: (← classifyAll rest)

/-- Arguments read so far. A positional whose only text was taken for a second end of the options
has no value. -/
structure Reading where
  archive : Bool := false
  sourcePaths : List String := []
  positionals : List (Option String) := []
  extras : List String := []
  deriving DecidableEq, Repr

/-- Text of a word. -/
def Word.text : Word → String
  | .positional t => t
  | .endOfOptions => "--"
  | .option reading => reading.spelling
  | .unknown t => t

/-- Whether a word ends the options. -/
def Word.isEnd (word : Word) : Bool := word == .endOfOptions

/-- Whether a word is read as an option. -/
def Word.isOption : Word → Bool
  | .option _ => true
  | .unknown _ => true
  | _ => false

/-- The words of one positional at the front: its text and the ends of options around it. -/
def positionalWords? (words : List Word) : Option (List Word) :=
  let before := words.takeWhile Word.isEnd
  match words.drop before.length with
  | .positional t :: rest => some (before ++ .positional t :: rest.takeWhile Word.isEnd)
  | _ => none

/-- Value of a positional by its words. -/
def positionalValue (words : List Word) : Option String :=
  match (words.map Word.text).erase "--" with
  | [value] => some value
  | _ => none

/-- Number of positionals. -/
def positionalCount : Nat := 2

/-- Positionals at the front of the words, as many as are still missing, and the number of words
that they take. -/
def takePositionals : Nat → List Word → List (Option String) × Nat
  | 0, _ => ([], 0)
  | missing + 1, words =>
    match positionalWords? words with
    | none => ([], 0)
    | some own =>
      let (values, taken) := takePositionals missing (words.drop own.length)
      (positionalValue own :: values, own.length + taken)

/-- Failure about an option. -/
def optionFault (kind : OptionKind) (what : String) : Stop :=
  .usage s!"argument {kind.shown}: {what}"

/-- Failure about a value that an option does not take. -/
def ignoredValue (kind : OptionKind) (value : String) : Stop :=
  optionFault kind ("ignored explicit argument " ++ Text.quoted value)

/-- Effect of an option without value. -/
def Reading.switch (r : Reading) : OptionKind → Except Stop Reading
  | .help => .error .help
  | _ => .ok { r with archive := true }

/-- Options without value written behind one another in one argument: their kinds, in order, and
an argument left over. -/
def bundled : Nat → OptionReading → Except Stop (List OptionKind × Option String)
  | 0, reading => .ok ([reading.kind], none)
  | bound + 1, reading =>
    match reading.attached with
    | none => .ok ([reading.kind], none)
    | some ⟨afterEquals, value⟩ =>
      match value.toList with
      | [] => .error (ignoredValue reading.kind value)
      | c :: rest =>
        if startsWith "--" reading.spelling || afterEquals || c = '-' then
          .error (ignoredValue reading.kind value)
        else
          let spelling := String.ofList ['-', c]
          match spellings.lookup spelling with
          | none => .ok ([reading.kind], some ("-" ++ value))
          | some kind =>
            let attached : Option Attached :=
              match rest with
              | [] => none
              | '=' :: after => some ⟨true, String.ofList after⟩
              | _ => some ⟨false, String.ofList rest⟩
            (bundled bound ⟨spelling, kind, attached⟩).map fun (kinds, left) =>
              (reading.kind :: kinds, left)

/-- Reading with an option and the words after it; the answer is also the number of those words
that the option takes. -/
def Reading.option (r : Reading) (o : OptionReading) (after : List Word) :
    Except Stop (Reading × Nat) :=
  match o.kind with
  | .sourcePath =>
    match o.attached, after with
    | some ⟨_, value⟩, _ => .ok ({ r with sourcePaths := r.sourcePaths ++ [value] }, 0)
    | none, .positional value :: _ =>
      .ok ({ r with sourcePaths := r.sourcePaths ++ [value] }, 1)
    | none, _ => .error (optionFault .sourcePath "expected one argument")
  | _ => do
    let (kinds, left) ← bundled (o.attached.elim 0 fun a => a.value.length + 1) o
    let r := { r with extras := r.extras ++ left.toList }
    return (← kinds.foldlM Reading.switch r, 0)

/-- Reading of the words from the front, at most `bound` steps of it. Positionals are taken as
they come; what is neither a positional still missing nor an option is left over. -/
def Reading.words : Nat → Reading → List Word → Except Stop Reading
  | 0, r, _ => .ok r
  | bound + 1, r, words =>
    match words with
    | [] => .ok r
    | word :: rest =>
      match word with
      | .option o => do
        let (r, taken) ← r.option o rest
        Reading.words bound r (rest.drop taken)
      | .unknown t => Reading.words bound { r with extras := r.extras ++ [t] } rest
      | _ =>
        let (values, taken) := takePositionals (positionalCount - r.positionals.length) words
        if taken = 0 then
          let strays := words.takeWhile fun w => !w.isOption
          Reading.words bound { r with extras := r.extras ++ strays.map Word.text }
            (words.drop strays.length)
        else
          Reading.words bound { r with positionals := r.positionals ++ values }
            (words.drop taken)

/-- Arguments of the command. -/
structure Arguments where
  archive : Bool
  sourcePaths : List String
  typeName : Option String
  output : Option String
  deriving DecidableEq, Repr

/-- Names of the positionals. -/
def positionalNames : List String := ["type_name", "output"]

/-- Result of a reading. Missing positionals are reported before arguments left over. -/
def Reading.result (r : Reading) : Except Stop Arguments :=
  match r.positionals with
  | [typeName, output] =>
    if r.extras.isEmpty then .ok ⟨r.archive, r.sourcePaths, typeName, output⟩
    else
      let extras := " ".intercalate r.extras
      .error (.usage s!"unrecognized arguments: {extras}")
  | positionals =>
    let missing := ", ".intercalate (positionalNames.drop positionals.length)
    .error (.usage s!"the following arguments are required: {missing}")

/-- Arguments of the command by their texts. -/
def parseArguments (texts : List String) : Except Stop Arguments := do
  let words ← classifyAll texts
  let r ← Reading.words (words.length + 1) {} words
  r.result

/-- Line that shows how the command is used. -/
def usageLine : String :=
  "usage: impl-core [-h] [-jar] [-sp SOURCE_PATH] type_name output\n"

/-- Message for a faulty use. -/
def usageMessage (message : String) : String :=
  usageLine ++ "impl-core: error: " ++ message ++ "\n"

/-- Description of the command. -/
def helpText : String :=
  usageLine ++
  "\nGenerate <Name>Impl for a Java class or interface.\n" ++
  "\npositional arguments:\n" ++
  "  type_name             canonical or binary name of the type to implement\n" ++
  "  output                output directory, or .jar path with -jar\n" ++
  "\noptions:\n" ++
  "  -h, --help            show this help message and exit\n" ++
  "  -jar                  compile the implementation and package it into the\n" ++
  "                        given .jar\n" ++
  "  -sp SOURCE_PATH, --source-path SOURCE_PATH\n" ++
  "                        source root to load types from (repeatable, default:\n" ++
  "                        .)\n"

end Skeletal.CommandLine
