import SoapClasses.TomlScalars
import SoapClasses.TomlTables

/-!
# Reading TOML text

A text is a sequence of lines: a header in brackets, which opens a table, or a key with a value, which
goes into the table opened last. Reading gives the table of the whole document, or nothing where the
text is no TOML.
-/

namespace SoapClasses.TomlText

open TomlScalars

def isBlankChar (c : Char) : Bool :=
  c == ' ' || c == '\t'

/-- The characters from the next one on that is no space. -/
def skipBlanks (text : List Char) : List Char :=
  text.dropWhile isBlankChar

/-- Whether a character may stand in a comment or a text. -/
def isPlain (c : Char) : Bool :=
  c == '\t' || (' ' ≤ c && c != '\x7f')

def newline? : List Char → Option (List Char)
  | '\n' :: rest => some rest
  | '\r' :: '\n' :: rest => some rest
  | _ => none

/-- The characters behind a comment, if one stands there. -/
def skipComment : List Char → List Char
  | '#' :: rest => rest.dropWhile isPlain
  | text => text

/-- The characters behind the end of a line, where only a comment may stand before it. -/
def lineEnd? (text : List Char) : Option (List Char) :=
  match skipComment (skipBlanks text) with
  | [] => some []
  | rest => newline? rest

/-- The characters from the next one on that is no space, line end or comment. -/
def skipLines : Nat → List Char → List Char
  | 0, text => text
  | steps + 1, text =>
    match newline? (skipComment (skipBlanks text)) with
    | some rest => skipLines steps rest
    | none => skipComment (skipBlanks text)

/-! ## Texts -/

/-- The character of a number of hexadecimal digits, and how many characters it takes. -/
def codePoint? (count : Nat) (text : List Char) : Option (Char × Nat) :=
  let digits := text.take count
  let point := numberOf 16 digits
  if digits.length == count && digits.all isHexDigit && point.isValidChar then
    some (Char.ofNat point, count + 1)
  else none

/-- The character of an escape, and how many characters stand behind the backslash. -/
def escape? : List Char → Option (Char × Nat)
  | 'b' :: _ => some ('\x08', 1)
  | 't' :: _ => some ('\t', 1)
  | 'n' :: _ => some ('\n', 1)
  | 'f' :: _ => some ('\x0c', 1)
  | 'r' :: _ => some ('\r', 1)
  | 'e' :: _ => some ('\x1b', 1)
  | '"' :: _ => some ('"', 1)
  | '\\' :: _ => some ('\\', 1)
  | 'x' :: digits => codePoint? 2 digits
  | 'u' :: digits => codePoint? 4 digits
  | 'U' :: digits => codePoint? 8 digits
  | _ => none

def basicText? (text : List Char) : Option (List Char × List Char) :=
  match text with
  | [] => none
  | c :: rest =>
    if c == '"' then some ([], rest)
    else if c == '\\' then
      match escape? rest with
      | none => none
      | some (escaped, count) =>
        (basicText? (rest.drop count)).map (fun (more, behind) => (escaped :: more, behind))
    else if isPlain c then (basicText? rest).map (fun (more, behind) => (c :: more, behind))
    else none
termination_by text.length
decreasing_by
  · simp only [List.length_drop, List.length_cons]
    omega
  · simp

def literalText? : List Char → Option (List Char × List Char)
  | [] => none
  | c :: rest =>
    if c == '\'' then some ([], rest)
    else if isPlain c then (literalText? rest).map (fun (more, behind) => (c :: more, behind))
    else none

/-- The quotes at the end of a text of several lines: three close it, and up to two before them belong
to it. -/
def closing? (quote : Char) (text : List Char) : Option (List Char × List Char) :=
  let run := (text.takeWhile (· == quote)).length
  if run < 3 then none
  else some (List.replicate (min run 5 - 3) quote, text.drop (min run 5))

/-- The text up to three double quotes. A backslash at the end of a line takes away the space up to the
next visible character. -/
def linesText? (trimming : Bool) (text : List Char) : Option (List Char × List Char) :=
  match text with
  | [] => none
  | c :: rest =>
    if trimming && (isBlankChar c || (newline? (c :: rest)).isSome) then linesText? true rest
    else
      match closing? '"' (c :: rest) with
      | some closed => some closed
      | none =>
        if c == '\\' then
          if (newline? (skipBlanks rest)).isSome then linesText? true rest
          else
            match escape? rest with
            | none => none
            | some (escaped, count) =>
              (linesText? false (rest.drop count)).map
                (fun (more, behind) => (escaped :: more, behind))
        else if isPlain c || c == '\n' || (newline? (c :: rest)).isSome then
          (linesText? false rest).map (fun (more, behind) => (c :: more, behind))
        else none
termination_by text.length
decreasing_by
  · simp
  · simp
  · simp only [List.length_drop, List.length_cons]
    omega
  · simp

def literalLinesText? : List Char → Option (List Char × List Char)
  | [] => none
  | c :: rest =>
    match closing? '\'' (c :: rest) with
    | some closed => some closed
    | none =>
      if isPlain c || c == '\n' || (newline? (c :: rest)).isSome then
        (literalLinesText? rest).map (fun (more, behind) => (c :: more, behind))
      else none

/-- The characters without a line end at the front. -/
def dropNewline (text : List Char) : List Char :=
  (newline? text).getD text

def text? (text : List Char) : Option (String × List Char) :=
  let found := match text with
    | '"' :: '"' :: '"' :: rest => linesText? false (dropNewline rest)
    | '\'' :: '\'' :: '\'' :: rest => literalLinesText? (dropNewline rest)
    | '"' :: rest => basicText? rest
    | '\'' :: rest => literalText? rest
    | _ => none
  found.map (fun (chars, rest) => (String.ofList chars, rest))

/-! ## Keys -/

/-- Whether a character may stand in a key without quotes. -/
def isKeyChar (c : Char) : Bool :=
  c.isAlphanum || c == '_' || c == '-'

/-- A key without dots: bare, or a text on one line. -/
def simpleKey? (text : List Char) : Option (String × List Char) :=
  match text with
  | '"' :: rest => (basicText? rest).map (fun (chars, rest) => (String.ofList chars, rest))
  | '\'' :: rest => (literalText? rest).map (fun (chars, rest) => (String.ofList chars, rest))
  | text =>
    let chars := text.takeWhile isKeyChar
    if chars.isEmpty then none else some (String.ofList chars, text.drop chars.length)

def key? : Nat → List Char → Option (List String × List Char)
  | 0, _ => none
  | steps + 1, text => do
    let (name, rest) ← simpleKey? (skipBlanks text)
    match skipBlanks rest with
    | '.' :: rest =>
      let (names, rest) ← key? steps rest
      return (name :: names, rest)
    | rest => return ([name], rest)

/-! ## Values -/

def isWordChar (c : Char) : Bool :=
  c.isAlphanum || c == '_' || c == '+' || c == '-' || c == '.' || c == ':'

/-- A word. Behind a date, a space and a time belong to it. -/
def word (text : List Char) : List Char × List Char :=
  let first := text.takeWhile isWordChar
  let rest := text.drop first.length
  match rest with
  | ' ' :: digit :: more =>
    if afterDate? first == some [] && digit.isDigit then
      let second := (digit :: more).takeWhile isWordChar
      (first ++ ' ' :: second, (digit :: more).drop second.length)
    else (first, rest)
  | _ => (first, rest)

def depthLimit : Nat := 80

mutual

/-- A value at a depth of arrays and tables. Each step takes a character, so as many steps as there
are characters are enough. -/
def value? : Nat → Nat → List Char → Option (TomlValue × List Char)
  | 0, _, _ => none
  | steps + 1, depth, text =>
    match text with
    | '[' :: rest => if depth < depthLimit then items? steps (depth + 1) [] rest else none
    | '\x7b' :: rest => if depth < depthLimit then members? steps (depth + 1) [] rest else none
    | '"' :: _ => (text? text).map (fun (value, rest) => (.text value, rest))
    | '\'' :: _ => (text? text).map (fun (value, rest) => (.text value, rest))
    | text =>
      let (word, rest) := word text
      (scalar? word).map (fun value => (value, rest))

/-- The items of an array, behind the bracket or a comma; the items before are in reverse. -/
def items? : Nat → Nat → List TomlValue → List Char → Option (TomlValue × List Char)
  | 0, _, _, _ => none
  | steps + 1, depth, before, text =>
    match skipLines text.length text with
    | ']' :: rest => some (.array before.reverse, rest)
    | text => do
      let (item, rest) ← value? steps depth text
      match skipLines rest.length rest with
      | ']' :: rest => return (.array (item :: before).reverse, rest)
      | ',' :: rest => items? steps depth (item :: before) rest
      | _ => none

/-- The entries of a table in braces, behind the brace or a comma. -/
def members? : Nat → Nat → TomlEntries → List Char → Option (TomlValue × List Char)
  | 0, _, _, _ => none
  | steps + 1, depth, before, text =>
    match skipLines text.length text with
    | '\x7d' :: rest => some (.table (entryValues before), rest)
    | text => do
      let (key, rest) ← key? (text.length + 1) text
      match rest with
      | '=' :: rest =>
        let (item, rest) ← value? steps depth (skipBlanks rest)
        let entries ← before.assign key item
        match skipLines rest.length rest with
        | '\x7d' :: rest => return (.table (entryValues entries), rest)
        | ',' :: rest => members? steps depth entries rest
        | _ => none
      | _ => none

end

/-! ## Documents -/

/-- What a line says. -/
inductive Statement where
  | assign (key : List String) (value : TomlValue)
  | openTable (path : List String)
  | openElement (path : List String)

/-- The statement at the front, and the characters behind it. -/
def statement? (text : List Char) : Option (Statement × List Char) :=
  let steps := 2 * text.length + 2
  match text with
  | '[' :: '[' :: rest => do
    let (path, rest) ← key? steps rest
    match rest with
    | ']' :: ']' :: rest => return (.openElement path, rest)
    | _ => none
  | '[' :: rest => do
    let (path, rest) ← key? steps rest
    match rest with
    | ']' :: rest => return (.openTable path, rest)
    | _ => none
  | text => do
    let (key, rest) ← key? steps text
    match rest with
    | '=' :: rest =>
      let (value, rest) ← value? steps 0 (skipBlanks rest)
      return (.assign key value, rest)
    | _ => none

/-- The statements of a text. Each takes a character. -/
def statements? : Nat → List Char → Option (List Statement)
  | 0, _ => none
  | steps + 1, text =>
    match skipLines text.length text with
    | [] => some []
    | text => do
      let (statement, rest) ← statement? text
      let rest ← lineEnd? rest
      let others ← statements? steps rest
      return statement :: others

/-- A document that grows: the table opened last, and all tables. -/
structure Growth where
  current : List String
  entries : TomlEntries

def Growth.take (growth : Growth) : Statement → Option Growth
  | .assign key value => do
    let entries ← growth.entries.alter .passed .header growth.current
      (fun _ entries => entries.assign key value)
    return { growth with entries := entries }
  | .openTable path => do
    let entries ← growth.entries.alter .passed .header path.dropLast
      (fun _ entries => entries.openTable (path.getLastD ""))
    return ⟨path, entries⟩
  | .openElement path => do
    let entries ← growth.entries.alter .passed .header path.dropLast
      (fun _ entries => entries.openElement (path.getLastD ""))
    return ⟨path, entries⟩

/-- The characters without a byte order mark at the front. -/
def withoutMark : List Char → List Char
  | '\ufeff' :: rest => rest
  | text => text

def read? (text : String) : Option TomlValue := do
  let chars := withoutMark text.toList
  let statements ← statements? (chars.length + 1) chars
  let growth ← statements.foldlM Growth.take ⟨[], []⟩
  return .table (entryValues growth.entries)

end SoapClasses.TomlText
