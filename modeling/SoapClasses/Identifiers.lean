import SoapClasses.AlphabeticCharacters
import SoapClasses.NumericCharacters

/-!
# Identifiers and the words of PHP

A name of a class, field, method or parameter is a letter or underscore followed by letters, numbers
and underscores. Some words are no names of classes: the built-in types and the reserved words, both
compared without regard to the case of ASCII letters.
-/

namespace SoapClasses

def startsIdentifier (c : Char) : Bool :=
  c == '_' || isLetter c

/-- Whether a character may follow the start of an identifier. -/
def continuesIdentifier (c : Char) : Bool :=
  c == '_' || isLetter c || isNumber c

def isIdentifierSpelling : List Char → Bool
  | [] => false
  | first :: rest => startsIdentifier first && rest.all continuesIdentifier

def isIdentifier (name : String) : Bool :=
  isIdentifierSpelling name.toList

/-- The name with its ASCII letters in lower case. -/
def asciiLowercase (name : String) : String :=
  String.ofList (name.toList.map Char.toLower)

/-- Types that every PHP program knows, without a class behind them. -/
def builtinTypes : List String := [
  "array", "bool", "callable", "false", "float", "int", "iterable", "mixed", "never", "null",
  "object", "parent", "self", "static", "string", "true", "void"]

/-- A type without the question mark that makes it nullable. -/
def withoutNullMark (name : String) : String :=
  match name.toList with
  | '?' :: rest => String.ofList rest
  | _ => name

/-- Whether a type, nullable or not, is built in. -/
def isBuiltinType (name : String) : Bool :=
  builtinTypes.contains (asciiLowercase (withoutNullMark name))

def reservedWords : List String := [
  "abstract", "and", "array", "as", "bool", "break", "callable", "case", "catch", "class",
  "clone", "const", "continue", "declare", "default", "do", "echo", "else", "elseif", "empty",
  "enddeclare", "endfor", "endforeach", "endif", "endswitch", "endwhile", "enum", "eval", "exit",
  "extends", "false", "final", "finally", "float", "fn", "for", "foreach", "function", "global",
  "goto", "if", "implements", "include", "instanceof", "insteadof", "int", "interface", "isset",
  "iterable", "list", "match", "mixed", "namespace", "never", "new", "null", "object", "or",
  "parent", "print", "private", "protected", "public", "readonly", "require", "return", "self",
  "static", "string", "switch", "throw", "trait", "true", "try", "unset", "use", "var", "void",
  "while", "xor", "yield"]

def isReservedWord (name : String) : Bool :=
  reservedWords.contains (asciiLowercase name)

end SoapClasses
