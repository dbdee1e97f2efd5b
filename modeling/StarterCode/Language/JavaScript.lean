import StarterCode.Code

/-!
# Starter code in JavaScript

The language has no types in its code, so a stub documents them in a comment of tags. A program
needs one function per type to read it. These functions are put together from smaller ones just as
a type is spelled, so a second table of spellings, `readers`, writes them: the type `array of pair
of integer and string` is read by `readArray(readTuple(readInteger, readString))`.

An input that fills a line is read word by word, which only an array of scalars allows.
-/

set_option autoImplicit false

namespace StarterCode.JavaScript

open Code

/-! ## Conventions -/

/-- The spelling of types in comments. -/
def spelling : Spelling where
  language := .javaScript
  integer := "number"
  float := "number"
  boolean := "boolean"
  string := "string"
  array := slot ++ "[]"
  pair := "[" ++ slot ++ "]"
  tuple := "[" ++ slot ++ "]"
  separator := ", "
  custom := []

/-- The functions that read values of a type. -/
def readers : Spelling where
  language := .javaScript
  integer := "readInteger"
  float := "readFloat"
  boolean := "readBoolean"
  string := "readString"
  array := "readArray(" ++ slot ++ ")"
  pair := "readTuple(" ++ slot ++ ")"
  tuple := "readTuple(" ++ slot ++ ")"
  separator := ", "
  custom := []

/-- The keywords and the globals that may not be bound. -/
def keywords : List String := [
  "arguments", "await", "break", "case", "catch", "class", "const", "continue", "debugger",
  "default", "delete", "do", "else", "enum", "eval", "export", "extends", "false", "finally",
  "for", "function", "if", "implements", "import", "in", "instanceof", "interface", "let",
  "new", "null", "package", "private", "protected", "public", "return", "static", "super",
  "switch", "this", "throw", "true", "try", "typeof", "undefined", "var", "void", "while",
  "with", "yield", "NaN", "Infinity"]

/-- The names in the code round the function. -/
def helperNames : List String := [
  "fs", "require", "module", "console", "main", "reader", "TokenReader", "readInteger",
  "readFloat", "readBoolean", "readString", "readArray", "readTuple", "readLine",
  "parseIntegerToken", "parseFloatToken", "parseBooleanToken", "parseStringToken", "formatValue"]

/-- The globals that this code calls. -/
def globals : List String := [
  "parseInt", "parseFloat", "String", "Array", "Error", "Number", "Boolean"]

/-- Types, reserved words and names, which are kept as they are. -/
def dialect : Dialect where
  spelling := spelling
  reserved := keywords ++ helperNames ++ globals
  rename := id

/-! ## The stub -/

/-- The line of the comment that documents a parameter. -/
def parameterTag (written : Variable) : String :=
  " * @param " ++ braced written.type ++ " " ++ written.name

/-- The function with an empty body, behind the comment that documents it. -/
def stub (problem : Problem) (header : Header) : Code :=
  ["/**", " * " ++ commentText problem.name, " *"] ++
    header.parameters.map parameterTag ++
    [" * @returns " ++ braced header.returnType, " */"] ++
    block ("function " ++ header.functionName ++ "(" ++ header.arguments ++ ")") [placeholder]

/-! ## Helper code of programs -/

/-- The class that cuts the input into words by lines. -/
def tokenReader : Code :=
  let nextLine := ["this.line += 1;", "this.col = 0;"]
  let reading :=
    block "constructor(text)" (
      [ "this.lines = text",
        "    .split(/\\r?\\n/)",
        "    .map((line) => line.split(/\\s+/).filter((token) => token.length > 0));",
        "this.line = 0;",
        "this.col = 0;" ])
  let refuseEnd :=
    block "if (this.line >= this.lines.length)" ["throw new Error('unexpected end of input');"]
  let token :=
    block "token()" (
      block "while (this.line < this.lines.length && this.col >= this.lines[this.line].length)"
        nextLine ++
      refuseEnd ++
      [ "const token = this.lines[this.line][this.col];",
        "this.col += 1;",
        "return token;" ])
  let lineTokens :=
    block "lineTokens()" (
      block ("if (this.col > 0 && this.line < this.lines.length && " ++
          "this.col >= this.lines[this.line].length)")
        nextLine ++
      refuseEnd ++
      ["const rest = this.lines[this.line].slice(this.col);"] ++ nextLine ++ ["return rest;"])
  block "class TokenReader" (spaced [reading, token, lineTokens])

/-- The functions that read values. -/
def readHelpers : Code :=
  let parsers := [
    "const parseIntegerToken = (token) => parseInt(token, 10);",
    "const parseFloatToken = (token) => parseFloat(token);",
    "const parseBooleanToken = (token) => token === 'true' || token === '1';",
    "const parseStringToken = (token) => token;"]
  let scalars := ["Integer", "Float", "Boolean", "String"].map fun kind =>
    "const read" ++ kind ++ " = (reader) => parse" ++ kind ++ "Token(reader.token());"
  let array :=
    blockEnding "const readArray = (readElement) => (reader) =>" (
      ["const length = parseIntegerToken(reader.token());", "const items = [];"] ++
      block "for (let i = 0; i < length; i += 1)" ["items.push(readElement(reader));"] ++
      ["return items;"]) ";"
  let tuple := [
    "const readTuple = (...readers) => (reader) => readers.map((read) => read(reader));"]
  spaced [parsers, scalars, array, tuple]

/-- The function that reads an array from one line. -/
def readLineHelper : Code := [
  "const readLine = (parseToken) => (reader) => reader.lineTokens().map(parseToken);"]

/-- The function that writes a value on one line. -/
def formatHelper : Code :=
  block "function formatValue(value)" (
    block "if (Array.isArray(value))" ["return value.map(formatValue).join(' ');"] ++
    ["return String(value);"])

/-! ## Programs -/

/-- The function that reads one word as an element of the array type. -/
def wordReader (type : ValueType) (context : String) : Except EmissionError String :=
  match type.element? with
  | some .integer => .ok "parseIntegerToken"
  | some .float => .ok "parseFloatToken"
  | some .boolean => .ok "parseBooleanToken"
  | some .string => .ok "parseStringToken"
  | _ => .error ⟨.javaScript, .lineLayout type, context⟩

/-- The expression that reads an input. -/
def readingText (input : Input) : Except EmissionError String := do
  let context := Dialect.parameterContext input.parameter
  match input.layout with
  | .counted => return (← readers.spellFor input.parameter.type context) ++ "(reader)"
  | .line => return "readLine(" ++ (← wordReader input.parameter.type context) ++ ")(reader)"

/-- The line of `main` that reads one input. -/
def readingLine (reading : Input × Variable) : Except EmissionError String := do
  return "const " ++ reading.2.name ++ " = " ++ (← readingText reading.1) ++ ";"

/-- The line of `main` that calls the function. -/
def callLine (header : Header) : String :=
  "const " ++ header.outputName ++ " = " ++ header.functionName ++ "(" ++ header.arguments ++ ");"

/-- The lines of `main` that write the returned value. -/
def writingLines (header : Header) : OutputLayout → Code
  | .line => ["console.log(formatValue(" ++ header.outputName ++ "));"]
  | .lines =>
    block ("for (const item of " ++ header.outputName ++ ")") ["console.log(formatValue(item));"]

/-- The function `main`, with the lines that read the inputs given. -/
def mainFunction (laidOut : LaidOutProblem) (header : Header) (reading : Code) : Code :=
  block "function main()" (
    ["const reader = new TokenReader(fs.readFileSync(0, 'utf-8'));"] ++ reading ++
    [callLine header] ++ writingLines header laidOut.outputLayout)

/-- The program round the function. -/
def program (laidOut : LaidOutProblem) (header : Header) : Except EmissionError Code := do
  let reading ← (readings laidOut header).mapM readingLine
  let lineHelper := if readsLines laidOut then [readLineHelper] else []
  return spaced (
    [["const fs = require('fs');"], stub laidOut.problem header, tokenReader, readHelpers] ++
    lineHelper ++ [formatHelper, mainFunction laidOut header reading, ["main();"]])

end StarterCode.JavaScript
