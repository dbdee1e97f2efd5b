import StarterCode.Language

/-!
# Arguments

What the program is asked to do is read from its arguments, from left to right. In front of the
command stand options of the program, behind it those of the command and one path.

An argument that begins with two dashes is an option with a long name, one that begins with a
single dash is a row of options of one letter each, and a dash alone is an ordinary argument.
Behind `--` everything is ordinary. An option is given at most once before the command and at most
once behind it, and none but the language takes a value, which is the next argument or follows a
`=` sign.

Reading stops at the first argument that is wrong, or that asks for the version or for help, and
whatever comes behind it is not looked at.

Arguments are kept as paths are, so those that are not texts have marks in them. An ordinary one may
be the path that a command is about. In any other place nothing with a mark is known: it is no
option, no command and no language.
-/

set_option autoImplicit false

namespace StarterCode.CommandLine

/-! ## Requests -/

/-- Something the program does. -/
inductive Command where
  /-- Write the starter code of a problem folder. -/
  | generate (folder : String) (json : Bool)
  /-- Inspect a problem folder, and also try to generate if `dryRun` is set. -/
  | validate (folder : String) (json dryRun : Bool)
  /-- Print the problem that a document declares, with its layouts if `full` is set. -/
  | parse (file : String) (full : Bool)
  /-- Print the code for one language, a whole program if `full` is set. -/
  | emit (file : String) (language : Language) (full : Bool)
  /-- Print the versions of program and library. -/
  | version

/-- What the arguments ask for. -/
inductive Request where
  /-- A command; `quiet` keeps it from printing what is not an error. -/
  | run (command : Command) (quiet : Bool)
  /-- The version of the program. -/
  | version
  /-- A word on how to use the program. -/
  | help
  /-- Nothing that the program does. -/
  | misuse

/-! ## Single arguments -/

/-- An argument by its form. -/
inductive Argument where
  /-- An ordinary argument. -/
  | word (text : String)
  /-- The sign that only ordinary arguments follow. -/
  | rest
  /-- An option with a long name, and the value behind its `=` sign. -/
  | long (name : String) (value : Option String)
  /-- Options of one letter. -/
  | short (letters : List Char)

/-- The form of an argument. -/
def Argument.ofText (text : String) : Argument :=
  match text.toList with
  | ['-', '-'] => .rest
  | '-' :: '-' :: option =>
    let name := String.ofList (option.takeWhile (· != '='))
    match option.dropWhile (· != '=') with
    | [] => .long name none
    | _ :: value => .long name (some (String.ofList value))
  | ['-'] => .word text
  | '-' :: letters => .short letters
  | _ => .word text

/-! ## Behind the command -/

/-- The options and ordinary arguments that a command takes. -/
structure Grammar where
  /-- The long names of its options without a value. -/
  switches : List String
  /-- Whether it takes a language. -/
  takesLanguage : Bool
  /-- The number of its ordinary arguments. -/
  words : Nat

/-- What has been given to a command. -/
structure Given where
  /-- The long names of options, as they came. -/
  switches : List String := []
  /-- The language. -/
  language : Option Language := none
  /-- The ordinary arguments. -/
  words : List String := []

/-- Why reading stops before the end. -/
inductive Stop where
  /-- Help is asked for. -/
  | help
  /-- An argument is wrong. -/
  | misuse

namespace Given

/-- Adds an option without a value, which the command must take and not have yet. -/
def addSwitch (grammar : Grammar) (given : Given) (name : String) : Except Stop Given :=
  if name = "help" then .error .help
  else if (name = "quiet" ∨ grammar.switches.contains name) ∧ !given.switches.contains name then
    .ok { given with switches := given.switches ++ [name] }
  else .error .misuse

/-- Adds an option of one letter. -/
def addLetter (grammar : Grammar) (given : Given) : Char → Except Stop Given
  | 'q' => given.addSwitch grammar "quiet"
  | 'h' => .error .help
  | _ => .error .misuse

/-- Adds an ordinary argument, which may not be empty nor one too many. -/
def addWord (grammar : Grammar) (given : Given) (word : String) : Except Stop Given :=
  if word.isEmpty ∨ given.words.length ≥ grammar.words then .error .misuse
  else .ok { given with words := given.words ++ [word] }

/-- Adds the language, which is given once. -/
def addLanguage (given : Given) (word : String) : Except Stop Given :=
  match given.language, Language.ofWord? word with
  | none, some language => .ok { given with language := some language }
  | _, _ => .error .misuse

/-- Adds all arguments behind a command. -/
def addAll (grammar : Grammar) (given : Given) : List String → Except Stop Given
  | [] => .ok given
  | text :: rest =>
    match Argument.ofText text with
    | .rest => rest.foldlM (addWord grammar) given
    | .word word => do (← given.addWord grammar word).addAll grammar rest
    | .short letters => do (← letters.foldlM (addLetter grammar) given).addAll grammar rest
    | .long name value? =>
      if grammar.takesLanguage && name == "lang" then
        match value? with
        | some value => do (← given.addLanguage value).addAll grammar rest
        | none =>
          match rest with
          | [] => .error .misuse
          | value :: rest => do (← given.addLanguage value).addAll grammar rest
      else
        match value? with
        | some _ => .error .misuse
        | none => do (← given.addSwitch grammar name).addAll grammar rest

end Given

/-- The names of the commands and what each takes. -/
def commands : List (String × Grammar) := [
  ("generate", ⟨["json"], false, 1⟩),
  ("validate", ⟨["json", "dry-run"], false, 1⟩),
  ("parse", ⟨["full"], false, 1⟩),
  ("emit", ⟨["full"], true, 1⟩),
  ("version", ⟨[], false, 0⟩)]

/-- The command of the given name, if it has been given all that it needs. -/
def command? (name : String) (given : Given) : Option Command :=
  let has := given.switches.contains
  match name, given.words, given.language with
  | "generate", [folder], _ => some (.generate folder (has "json"))
  | "validate", [folder], _ => some (.validate folder (has "json") (has "dry-run"))
  | "parse", [file], _ => some (.parse file (has "full"))
  | "emit", [file], some language => some (.emit file language (has "full"))
  | "version", [], _ => some .version
  | _, _, _ => none

/-- The request for a command with the arguments behind it. -/
def requestFor (name : String) (quiet : Bool) (arguments : List String) : Request :=
  match commands.lookup name with
  | some grammar =>
    match Given.addAll grammar {} arguments with
    | .ok given =>
      match command? name given with
      | some command => .run command (quiet || given.switches.contains "quiet")
      | none => .misuse
    | .error .help => .help
    | .error .misuse => .misuse
  | none =>
    if name = "help" then
      match arguments with
      | [] => .help
      | [topic] => if (commands.lookup topic).isSome then .help else .misuse
      | _ => .misuse
    else .misuse

/-! ## In front of the command -/

/-- Options of one letter in front of the command. Without an answer reading goes on, with `quiet`
as it is then. -/
def lettersRequest (quiet : Bool) : List Char → Except Request Bool
  | [] => .ok quiet
  | 'q' :: letters => if quiet then .error .misuse else lettersRequest true letters
  | 'V' :: _ => .error .version
  | 'h' :: _ => .error .help
  | _ => .error .misuse

/-- What the arguments ask for, where `quiet` says whether that option has been given before. -/
def requestFrom (quiet : Bool) : List String → Request
  | [] => .misuse
  | text :: rest =>
    match Argument.ofText text with
    | .word name => requestFor name quiet rest
    | .rest => .misuse
    | .long "quiet" none => if quiet then .misuse else requestFrom true rest
    | .long "version" none => .version
    | .long "help" none => .help
    | .long _ _ => .misuse
    | .short letters =>
      match lettersRequest quiet letters with
      | .ok quiet => requestFrom quiet rest
      | .error request => request

/-- What the arguments ask for. -/
def request (arguments : List String) : Request :=
  requestFrom false arguments

end StarterCode.CommandLine
