import StarterCode.Code

/-!
# Starter code in C++

Parameters that are not scalars are taken by reference, and the stub includes the standard headers
that its types need, no others. A program reads and writes through overloads of `readValue` and
`writeValue` that the compiler picks by type, so the code for one input is a declaration and a call.

The pieces of a program stand apart: the helper code that every program has, the helpers for the
layouts, and `main`, which alone depends on the problem.
-/

set_option autoImplicit false

namespace StarterCode.Cpp

open Code

/-! ## Conventions -/

/-- The spelling of types. -/
def spelling : Spelling where
  language := .cpp
  integer := "int"
  float := "double"
  boolean := "bool"
  string := "std::string"
  array := "std::vector<" ++ slot ++ ">"
  pair := "std::pair<" ++ slot ++ ">"
  tuple := "std::tuple<" ++ slot ++ ">"
  separator := ", "
  custom := []

/-- The keywords. -/
def keywords : List String := [
  "alignas", "alignof", "and", "and_eq", "asm", "auto", "bitand", "bitor", "bool", "break",
  "case", "catch", "char", "char16_t", "char32_t", "class", "compl", "const", "const_cast",
  "constexpr", "continue", "decltype", "default", "delete", "do", "double", "dynamic_cast",
  "else", "enum", "explicit", "export", "extern", "false", "float", "for", "friend", "goto",
  "if", "inline", "int", "long", "mutable", "namespace", "new", "noexcept", "not", "not_eq",
  "nullptr", "operator", "or", "or_eq", "private", "protected", "public", "register",
  "reinterpret_cast", "return", "short", "signed", "sizeof", "static", "static_assert",
  "static_cast", "struct", "switch", "template", "this", "thread_local", "throw", "true",
  "try", "typedef", "typeid", "typename", "union", "unsigned", "using", "virtual", "void",
  "volatile", "wchar_t", "while", "xor", "xor_eq"]

/-- The names in the code round the function. -/
def helperNames : List String := [
  "main", "std", "reader", "TokenReader", "parseToken", "readValue", "readLine", "writeValue",
  "writeLines"]

/-- Types, reserved words and names, which are kept as they are. -/
def dialect : Dialect where
  spelling := spelling
  reserved := keywords ++ helperNames
  rename := id

/-! ## The stub -/

/-- The comment that names the problem. -/
def titleLine (name : String) : String :=
  "// " ++ commentText name

/-- The line that includes a standard header. -/
def includeLine (library : String) : String :=
  "#include <" ++ library ++ ">"

/-- The standard header that a kind of type needs. -/
def library? : ValueType → Option String
  | .string => some "string"
  | .array _ => some "vector"
  | .tuple components => some (if components.length = 2 then "utility" else "tuple")
  | _ => none

/-- The standard headers that the types of the problem need, in alphabetical order. -/
def libraries (problem : Problem) : List String :=
  let needed := problem.nestedTypes.filterMap library?
  ["string", "tuple", "utility", "vector"].filter needed.contains

/-- A parameter in the signature: a scalar by value, anything else by reference. -/
def parameterText (type : ValueType) (written : Variable) : String :=
  if type.isScalar then written.type ++ " " ++ written.name
  else written.type ++ "& " ++ written.name

/-- The function with an empty body. -/
def function (problem : Problem) (header : Header) : Code :=
  let parameters := problem.parameters.zipWith (parameterText ·.type) header.parameters
  block
    (header.returnType ++ " " ++ header.functionName ++ "(" ++ ", ".intercalate parameters ++ ")")
    [placeholder, "return " ++ braced "" ++ ";"]

/-- The lines that include what a stub needs, with an empty line behind them if there are any. -/
def includeLines (problem : Problem) : Code :=
  match libraries problem with
  | [] => []
  | needed => needed.map includeLine ++ [""]

/-- The stub. -/
def stub (problem : Problem) (header : Header) : Code :=
  [titleLine problem.name] ++ includeLines problem ++ function problem header

/-! ## Helper code of programs -/

/-- The standard headers that every program includes. -/
def programLibraries : List String := [
  "charconv", "cstddef", "iostream", "sstream", "stdexcept", "string", "tuple", "utility", "vector"]

/-- The class that cuts the input into words by lines. -/
def tokenReader : Code :=
  let reading :=
    block "explicit TokenReader(std::istream& in)" (
      ["std::string line;"] ++
      block "while (std::getline(in, line))" (
        [ "std::istringstream words(line);",
          "std::vector<std::string> tokens;",
          "std::string token;" ] ++
        block "while (words >> token)" ["tokens.push_back(token);"] ++
        ["lines_.push_back(tokens);"]))
  let nextLine := ["++line_;", "col_ = 0;"]
  let refuseEnd :=
    block "if (line_ >= lines_.size())" ["throw std::runtime_error(\"unexpected end of input\");"]
  let token :=
    block "std::string token()" (
      block "while (line_ < lines_.size() && col_ >= lines_[line_].size())" nextLine ++
      refuseEnd ++
      ["return lines_[line_][col_++];"])
  let lineTokens :=
    block "std::vector<std::string> lineTokens()" (
      block "if (col_ > 0 && line_ < lines_.size() && col_ >= lines_[line_].size())" nextLine ++
      refuseEnd ++
      [ "const std::vector<std::string>& current = lines_[line_];",
        "std::vector<std::string> rest(current.begin() + " ++
          "static_cast<std::ptrdiff_t>(col_), current.end());" ] ++
      nextLine ++
      ["return rest;"])
  let fields := [
    "std::vector<std::vector<std::string>> lines_;",
    "std::size_t line_ = 0;",
    "std::size_t col_ = 0;"]
  ["class TokenReader \x7b", "public:"] ++
    indented (spaced [reading, token, lineTokens]) ++
    ["", "private:"] ++ indented fields ++ ["\x7d;"]

/-- The heads of `readValue`, each with the parameters of its template. -/
def readHeads : List (String × String) := [
  ("typename T", "T& out"),
  ("typename T", "std::vector<T>& out"),
  ("typename A, typename B", "std::pair<A, B>& out"),
  ("typename... Ts", "std::tuple<Ts...>& out")]

/-- The first line of a template. -/
def templateLine (parameters : String) : String :=
  "template <" ++ parameters ++ ">"

/-- The head of `readValue` for one kind of output. -/
def readHead (output : String) : String :=
  "void readValue(TokenReader& reader, " ++ output ++ ")"

/-- The functions that read values. -/
def readHelpers : Code :=
  let parseToken := fun (output body : String) =>
    "void parseToken(const std::string& token, " ++ output ++ ") " ++ inBraces body
  let scalars := [
    parseToken "int& out" "out = std::stoi(token);",
    parseToken "double& out" "out = std::stod(token);",
    parseToken "bool& out" "out = token == \"true\" || token == \"1\";",
    parseToken "std::string& out" "out = token;"]
  let declarations := readHeads.flatMap fun head =>
    [templateLine head.1, readHead head.2 ++ ";"]
  let define := fun (head : String × String) (body : Code) =>
    [templateLine head.1] ++ block (readHead head.2) body
  let bodies : List Code := [
    ["parseToken(reader.token(), out);"],
    ["std::size_t length = std::stoul(reader.token());", "out.clear();"] ++
      block "for (std::size_t i = 0; i < length; ++i)"
        ["T item" ++ braced "" ++ ";", "readValue(reader, item);", "out.push_back(item);"],
    ["readValue(reader, out.first);", "readValue(reader, out.second);"],
    ["std::apply([&reader](auto&... items) " ++
      inBraces "(readValue(reader, items), ...);" ++ ", out);"]]
  spaced ([scalars, declarations] ++ readHeads.zipWith define bodies)

/-- The function that reads an array from one line. -/
def readLineHelper : Code :=
  [templateLine "typename T"] ++
    block "void readLine(TokenReader& reader, std::vector<T>& out)" (
      ["out.clear();"] ++
      block "for (const std::string& token : reader.lineTokens())"
        ["T item" ++ braced "" ++ ";", "parseToken(token, item);", "out.push_back(item);"])

/-- The head of `writeValue` for one kind of value. -/
def writeHead (value : String) : String :=
  "void writeValue(std::ostream& out, " ++ value ++ ")"

/-- The functions that write values. -/
def writeHelpers : Code :=
  let any := [templateLine "typename T", writeHead "const T& value"]
  let vector := [templateLine "typename T", writeHead "const std::vector<T>& value"]
  let pair := [templateLine "typename A, typename B", writeHead "const std::pair<A, B>& value"]
  let tuple := [templateLine "typename... Ts", writeHead "const std::tuple<Ts...>& value"]
  let boolean := [writeHead "bool value"]
  let double := [writeHead "double value"]
  let declare := fun (head : Code) => head.dropLast ++ [head.getLastD "" ++ ";"]
  let define := fun (head body : Code) => head.dropLast ++ block (head.getLastD "") body
  let declarations := [any, boolean, double, vector, pair, tuple].flatMap declare
  let each :=
    block "[&out, &first](const auto&... items)"
      ["((out << (first ? \"\" : \" \"), writeValue(out, items), first = false), ...);"]
  spaced [
    declarations,
    define any ["out << value;"],
    define boolean ["out << (value ? \"true\" : \"false\");"],
    ["// Shortest text that reads back as the same double"] ++
      define double [
        "char buffer[32];",
        "std::to_chars_result written = std::to_chars(buffer, buffer + sizeof(buffer), value);",
        "out.write(buffer, written.ptr - buffer);"],
    define vector (
      block "for (std::size_t i = 0; i < value.size(); ++i)" (
        block "if (i > 0)" ["out << ' ';"] ++ ["writeValue(out, value[i]);"])),
    define pair ["writeValue(out, value.first);", "out << ' ';", "writeValue(out, value.second);"],
    define tuple (
      ["bool first = true;", "std::apply("] ++
      indented (each.dropLast ++ ["\x7d,", "value);"]))]

/-- The function that writes the elements of an array on lines of their own. -/
def writeLinesHelper : Code :=
  [templateLine "typename T"] ++
    block "void writeLines(std::ostream& out, const std::vector<T>& value)" (
      block "for (std::size_t i = 0; i < value.size(); ++i)"
        ["writeValue(out, value[i]);", "out << '\\n';"])

/-! ## Programs -/

/-- The name of the function that reads an input of this layout. -/
def readerFor : InputLayout → String
  | .counted => "readValue"
  | .line => "readLine"

/-- The lines of `main` that read one input. -/
def readingLines (reading : Input × Variable) : Code :=
  [ reading.2.type ++ " " ++ reading.2.name ++ braced "" ++ ";",
    readerFor reading.1.layout ++ "(reader, " ++ reading.2.name ++ ");" ]

/-- The line of `main` that calls the function. -/
def callLine (header : Header) : String :=
  header.returnType ++ " " ++ header.outputName ++ " = " ++ header.functionName ++ "(" ++
    header.arguments ++ ");"

/-- The lines of `main` that write the returned value. -/
def writingLines (header : Header) : OutputLayout → Code
  | .line => ["writeValue(std::cout, " ++ header.outputName ++ ");", "std::cout << '\\n';"]
  | .lines => ["writeLines(std::cout, " ++ header.outputName ++ ");"]

/-- The function `main`: it reads the inputs in order, calls the function and writes the value. -/
def mainFunction (laidOut : LaidOutProblem) (header : Header) : Code :=
  block "int main()" (
    ["TokenReader reader(std::cin);", ""] ++
    (readings laidOut header).flatMap readingLines ++
    ["", callLine header] ++ writingLines header laidOut.outputLayout ++ ["return 0;"])

/-- The program round the function. -/
def program (laidOut : LaidOutProblem) (header : Header) : Code :=
  let reading := [readHelpers] ++ if readsLines laidOut then [readLineHelper] else []
  let writing := [writeHelpers] ++ if laidOut.outputLayout = .lines then [writeLinesHelper] else []
  [titleLine laidOut.problem.name, "// Build with: g++ -std=c++17 function.cpp"] ++
    programLibraries.map includeLine ++ [""] ++
    spaced ([function laidOut.problem header, tokenReader] ++ reading ++ writing ++
      [mainFunction laidOut header])

end StarterCode.Cpp
