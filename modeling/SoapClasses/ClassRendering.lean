import SoapClasses.PhpClasses

/-!
# The text of a class

A class is written as a list of lines: the namespace, the imports, the doc block, the declaration and
the members, with one empty line between members. A type is written as it is when it is built in and
with a leading backslash otherwise; a question mark in front stays in front.
-/

namespace SoapClasses

def indentation : String := "    "

def renderType (hint : String) : String :=
  match hint.toList with
  | '?' :: inner =>
    let name := String.ofList inner
    "?" ++ (if isBuiltinType name then name else absoluteName name)
  | _ => if isBuiltinType hint then hint else absoluteName hint

/-- The lines of a doc block that stands in front of a member. -/
def memberDocLines (doc : Option DocBlock) : List String :=
  match doc with
  | some doc => doc.lines.map (fun line => indentation ++ line)
  | none => []

namespace Field

def declaration (field : Field) : String :=
  let hint := match field.typeHint with
    | some hint => renderType hint ++ " "
    | none => ""
  let initial := match field.initial with
    | some value => " = " ++ value
    | none => ""
  field.visibility.word ++ " " ++ hint ++ "$" ++ field.name ++ initial ++ ";"

def lines (field : Field) : List String :=
  memberDocLines field.doc ++ [indentation ++ field.declaration]

end Field

def Parameter.declaration (parameter : Parameter) : String :=
  match parameter.typeHint with
  | some hint => renderType hint ++ " $" ++ parameter.name
  | none => "$" ++ parameter.name

namespace Method

def signature (method : Method) : String :=
  let modifier := if method.isStatic then "static " else ""
  let parameters := joinText ", " (method.parameters.map Parameter.declaration)
  let result := match method.returnType with
    | some hint => ": " ++ renderType hint
    | none => ""
  method.visibility.word ++ " " ++ modifier ++ "function " ++ method.name ++ "(" ++ parameters ++ ")"
    ++ result

/-- A line of a body in its place; an empty line has no indentation. -/
def bodyLine (line : String) : String :=
  if line == "" then "" else indentation ++ indentation ++ line

def lines (method : Method) : List String :=
  memberDocLines method.doc
    ++ [indentation ++ method.signature, indentation ++ "\x7b"]
    ++ (textLines method.body).map bodyLine
    ++ [indentation ++ "\x7d"]

end Method

def Import.line (entry : Import) : String :=
  match entry.aliasName with
  | some aliasName => "use " ++ entry.name ++ " as " ++ aliasName ++ ";"
  | none => "use " ++ entry.name ++ ";"

namespace PhpClass

/-- How the class refers to an interface: by the alias or last segment of its import, or by its full
name when it is not imported. -/
def interfaceReference (php : PhpClass) (interface : String) : String :=
  match php.imports.find? interface with
  | some ⟨_, some aliasName⟩ => aliasName
  | some ⟨_, none⟩ => shortName interface
  | none => "\\" ++ interface

def namespaceLines (php : PhpClass) : List String :=
  if php.ns == "" then [] else ["namespace " ++ php.ns ++ ";", ""]

def importLines (php : PhpClass) : List String :=
  match php.imports.toList with
  | [] => []
  | entries => entries.map Import.line ++ [""]

def declaration (php : PhpClass) : String :=
  match php.interfaces.toList with
  | [] => "class " ++ php.name
  | interfaces =>
    "class " ++ php.name ++ " implements "
      ++ joinText ", " (interfaces.map php.interfaceReference)

def memberLines (php : PhpClass) : List String :=
  spacedBlocks (php.fields.toList.map Field.lines ++ php.methods.toList.map Method.lines)

def lines (php : PhpClass) : List String :=
  php.namespaceLines ++ php.importLines
    ++ (match php.doc with
      | some doc => doc.lines
      | none => [])
    ++ [php.declaration, "\x7b"] ++ php.memberLines ++ ["\x7d"]

def render (php : PhpClass) : String :=
  unlines php.lines

end PhpClass

end SoapClasses
