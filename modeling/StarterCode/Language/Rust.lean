import StarterCode.Code
import StarterCode.Text.SnakeCase

/-!
# Starter code in Rust

Names are written in snake case and parameters are taken by value. A program reads and writes
through two traits. The language has no way to implement a trait for tuples of every size at once,
so `tupleCode` writes the implementations for one size, and a program holds them for exactly the
sizes that occur in its types, the smallest first.
-/

set_option autoImplicit false

namespace StarterCode.Rust

open Code

/-! ## Conventions -/

/-- The spelling of types. -/
def spelling : Spelling where
  language := .rust
  integer := "i32"
  float := "f64"
  boolean := "bool"
  string := "String"
  array := "Vec<" ++ slot ++ ">"
  pair := "(" ++ slot ++ ")"
  tuple := "(" ++ slot ++ ")"
  separator := ", "
  custom := []

/-- The keywords, in use or set aside. -/
def keywords : List String := [
  "abstract", "as", "async", "await", "become", "box", "break", "const", "continue", "crate",
  "do", "dyn", "else", "enum", "extern", "false", "final", "fn", "for", "gen", "if", "impl", "in",
  "let", "loop", "macro", "match", "mod", "move", "mut", "override", "priv", "pub", "ref",
  "return", "self", "static", "struct", "super", "trait", "true", "try", "type", "typeof",
  "unsafe", "unsized", "use", "virtual", "where", "while", "yield"]

/-- The names in the code round the function. -/
def helperNames : List String := ["main", "std", "io", "input", "reader", "read_line"]

/-- Types, reserved words and names, which are written in snake case. -/
def dialect : Dialect where
  spelling := spelling
  reserved := keywords ++ helperNames
  rename := fun name => String.ofList (Text.snakeCase name.toList)

/-! ## The stub -/

/-- The function with an empty body, behind the comment that documents it. -/
def stub (problem : Problem) (header : Header) : Code :=
  let parameters := header.parameters.map fun written => written.name ++ ": " ++ written.type
  ["/// " ++ commentText problem.name] ++
    block
      ("pub fn " ++ header.functionName ++ "(" ++ ", ".intercalate parameters ++ ") -> " ++
        header.returnType)
      [placeholder, "todo!()"]

/-! ## Helper code of programs -/

/-- The structure that cuts the input into words by lines. -/
def tokenReader : Code :=
  let fields :=
    block "struct TokenReader" ["lines: Vec<Vec<String>>,", "line: usize,", "col: usize,"]
  let reading :=
    block "fn new(text: &str) -> Self" [
      "let lines = text",
      "    .lines()",
      "    .map(|line| line.split_whitespace().map(String::from).collect())",
      "    .collect();",
      "TokenReader " ++ inBraces "lines, line: 0, col: 0"]
  let token :=
    block "fn token(&mut self) -> String" (
      block "while self.line < self.lines.len() && self.col >= self.lines[self.line].len()"
        ["self.line += 1;", "self.col = 0;"] ++
      [ "let token = self",
        "    .lines",
        "    .get(self.line)",
        "    .and_then(|line| line.get(self.col))",
        "    .cloned()",
        "    .expect(\"unexpected end of input\");",
        "self.col += 1;",
        "token" ])
  spaced [fields, block "impl TokenReader" (spaced [reading, token])]

/-- A rule that repeats `body` for each of a list of types, and its use for the scalar types. -/
def forScalars (name : String) (body : Code) : List Code := [
  ["macro_rules! " ++ name ++ " \x7b"] ++
    indented (["($($ty:ty),*) => \x7b$("] ++ indented body ++ [")*\x7d;"]) ++ ["\x7d"],
  [name ++ "!(i32, f64, bool, String);"]]

/-- The head of the function that reads a value. -/
def readHead : String := "fn read_value(reader: &mut TokenReader) -> Self"

/-- The head of the function that writes a value. -/
def writeHead : String := "fn write_value(&self) -> String"

/-- The traits and implementations that read values. -/
def readHelpers : Code :=
  let parseHead := "fn parse_token(token: &str) -> Self"
  let parser := fun (type body : String) =>
    block ("impl ParseToken for " ++ type) (block parseHead [body])
  spaced (
    [ block "trait ParseToken: Sized" [parseHead ++ ";"],
      parser "i32" "token.parse().expect(\"malformed integer\")",
      parser "f64" "token.parse().expect(\"malformed float\")",
      parser "bool" "token == \"true\" || token == \"1\"",
      parser "String" "token.to_string()",
      block "trait ReadValue: Sized" [readHead ++ ";"] ] ++
    forScalars "read_scalar" (
      block "impl ReadValue for $ty" (
        block readHead ["<$ty as ParseToken>::parse_token(&reader.token())"])) ++
    [ block "impl<T: ReadValue> ReadValue for Vec<T>" (
        block readHead [
          "let length: usize = reader.token().parse().expect(\"malformed length\");",
          "(0..length).map(|_| T::read_value(reader)).collect()"]) ])

/-- The functions that read an array from one line. -/
def readLineHelper : Code :=
  let lineTokens :=
    block "fn line_tokens(&mut self) -> Vec<String>" (
      block ("if self.col > 0 && self.line < self.lines.len() && " ++
          "self.col >= self.lines[self.line].len()")
        ["self.line += 1;", "self.col = 0;"] ++
      [ "let rest = self",
        "    .lines",
        "    .get(self.line)",
        "    .map(|line| line[self.col..].to_vec())",
        "    .expect(\"unexpected end of input\");",
        "self.line += 1;",
        "self.col = 0;",
        "rest" ])
  spaced [
    block "impl TokenReader" lineTokens,
    block "fn read_line<T: ParseToken>(reader: &mut TokenReader) -> Vec<T>"
      ["reader.line_tokens().iter().map(|token| T::parse_token(token)).collect()"]]

/-- The trait and implementations that write values. -/
def writeHelpers : Code :=
  spaced (
    [block "trait WriteValue" [writeHead ++ ";"]] ++
    forScalars "write_scalar" (
      block "impl WriteValue for $ty" (block writeHead ["self.to_string()"])) ++
    [ block "impl<T: WriteValue> WriteValue for Vec<T>" (
        block writeHead [
          "self.iter().map(|item| item.write_value()).collect::<Vec<_>>().join(\" \")"]) ])

/-! ## Tuples -/

/-- The number of components of a tuple. -/
def arity? : ValueType → Option Nat
  | .tuple components => some components.length
  | _ => none

/-- The sizes of the tuples that occur in the types of the problem, the smallest first, each once.
-/
def arities (problem : Problem) : List Nat :=
  let found := problem.nestedTypes.filterMap arity?
  (List.range (found.foldr max 0 + 1)).filter found.contains

/-- One text for each component of a tuple of the given size, between commas. -/
def components (arity : Nat) (component : String → String) : String :=
  ", ".intercalate ((List.range arity).map fun i => component (toString i))

/-- The implementation of a trait for tuples of one size. -/
def tupleImplementation (trait : String) (arity : Nat) (method : Code) : Code :=
  block
    ("impl<" ++ components arity (fun i => "T" ++ i ++ ": " ++ trait) ++ "> " ++ trait ++
      " for (" ++ components arity (fun i => "T" ++ i) ++ ")")
    method

/-- The implementations of both traits for tuples of one size. -/
def tupleCode (arity : Nat) : Code :=
  let reads := components arity fun i => "T" ++ i ++ "::read_value(reader)"
  let writes := components arity fun i => "self." ++ i ++ ".write_value()"
  spaced [
    tupleImplementation "ReadValue" arity (block readHead ["(" ++ reads ++ ")"]),
    tupleImplementation "WriteValue" arity (block writeHead ["[" ++ writes ++ "].join(\" \")"])]

/-! ## Programs -/

/-- The expression that reads an input of this layout. -/
def readerFor : InputLayout → String
  | .counted => "ReadValue::read_value(&mut reader)"
  | .line => "read_line(&mut reader)"

/-- The line of `main` that reads one input. -/
def readingLine (reading : Input × Variable) : String :=
  "let " ++ reading.2.name ++ ": " ++ reading.2.type ++ " = " ++ readerFor reading.1.layout ++ ";"

/-- The line of `main` that calls the function. -/
def callLine (header : Header) : String :=
  "let " ++ header.outputName ++ ": " ++ header.returnType ++ " = " ++ header.functionName ++ "(" ++
    header.arguments ++ ");"

/-- The lines of `main` that write the returned value. -/
def writingLines (header : Header) : OutputLayout → Code
  | .line => ["println!(\"" ++ braced "" ++ "\", " ++ header.outputName ++ ".write_value());"]
  | .lines =>
    block ("for item in &" ++ header.outputName)
      ["println!(\"" ++ braced "" ++ "\", item.write_value());"]

/-- The function `main`: it reads the inputs in order, calls the function and writes the value. -/
def mainFunction (laidOut : LaidOutProblem) (header : Header) : Code :=
  block "fn main()" (
    [ "let mut input = String::new();",
      "io::stdin().read_to_string(&mut input).expect(\"failed to read stdin\");",
      "let mut reader = TokenReader::new(&input);",
      "" ] ++
    (readings laidOut header).map readingLine ++
    ["", callLine header] ++ writingLines header laidOut.outputLayout)

/-- The program round the function. -/
def program (laidOut : LaidOutProblem) (header : Header) : Code :=
  let lineHelper := if readsLines laidOut then [readLineHelper] else []
  spaced (
    [ ["use std::io::" ++ braced "self, Read" ++ ";"],
      stub laidOut.problem header, tokenReader, readHelpers ] ++
    lineHelper ++ [writeHelpers] ++ (arities laidOut.problem).map tupleCode ++
    [mainFunction laidOut header])

end StarterCode.Rust
