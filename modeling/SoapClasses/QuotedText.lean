import SoapClasses.UnprintableCharacters

/-!
# Quoted text

In messages a text stands between double quotes. Quotes and backslashes are escaped, a few control
characters have short names, and every other character that cannot be seen is spelled by its code
point. Paths are quoted in the same way, with single quotes escaped too.
-/

namespace SoapClasses

/-- A character that is spelled by its code point. -/
def codePointEscape (c : Char) : List Char :=
  "\\u\x7b".toList ++ Nat.toDigits 16 c.toNat ++ ['\x7d']

def escapedChar (c : Char) : List Char :=
  match c with
  | '\x00' => ['\\', '0']
  | '\t' => ['\\', 't']
  | '\r' => ['\\', 'r']
  | '\n' => ['\\', 'n']
  | '"' => ['\\', '"']
  | '\\' => ['\\', '\\']
  | c => if isUnprintable c then codePointEscape c else [c]

def quoted (text : String) : String :=
  String.ofList ('"' :: text.toList.flatMap escapedChar ++ ['"'])

def quotedPath (path : String) : String :=
  String.ofList ('"' :: path.toList.flatMap
    (fun c => if c == '\'' then ['\\', '\''] else escapedChar c) ++ ['"'])

end SoapClasses
