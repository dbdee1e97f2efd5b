/-!
# Target languages

Starter code is written for three languages. A language is named by several words in any letter
case, has one name of its own in reports, and one extension for its files.
-/

set_option autoImplicit false

namespace StarterCode

/-- A language that starter code is written in. -/
inductive Language where
  /-- The language C++. -/
  | cpp
  /-- The language JavaScript. -/
  | javaScript
  /-- The language Rust. -/
  | rust
deriving DecidableEq

namespace Language

/-- All languages, in the order in which code is written for them. -/
def all : List Language := [.cpp, .javaScript, .rust]

/-- The name in reports, messages and data. -/
def text : Language → String
  | .cpp => "cpp"
  | .javaScript => "javascript"
  | .rust => "rust"

/-- The extension of source files. -/
def extension : Language → String
  | .cpp => "cpp"
  | .javaScript => "js"
  | .rust => "rs"

/-- The name of the source file of a solution. -/
def fileName (language : Language) : String :=
  "function." ++ language.extension

/-- The words that name a language, in small letters. -/
def words : List (String × Language) := [
  ("cpp", .cpp), ("c++", .cpp), ("cxx", .cpp),
  ("js", .javaScript), ("javascript", .javaScript), ("node", .javaScript),
  ("rust", .rust), ("rs", .rust)]

/-- A word in ASCII small letters. -/
def fold (word : String) : String :=
  String.ofList (word.toList.map Char.toLower)

/-- The language that a word names, in any letter case. -/
def ofWord? (word : String) : Option Language :=
  words.lookup (fold word)

/-- The message for a word that names no language. -/
def unknownMessage (word : String) : String :=
  "unknown language '" ++ fold word ++ "' (expected cpp, js or rust)"

end Language

end StarterCode
