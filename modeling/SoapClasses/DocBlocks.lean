import SoapClasses.TextPieces

/-!
# Documentation comments

A doc block has an optional summary, an optional longer description and any number of tags. It is
laid out as the lines of a comment, with one empty comment line between the parts that are present.
Lines are never wrapped.
-/

namespace SoapClasses

/-- A line `@name description` at the end of a doc block. -/
structure DocTag where
  name : String
  description : String
  deriving DecidableEq, Repr

/-- The documentation of a class or of one of its members. -/
structure DocBlock where
  summary : Option String
  details : Option String
  tags : List DocTag
  deriving DecidableEq, Repr

namespace DocBlock

def empty : DocBlock :=
  ⟨none, none, []⟩

def visibleText (text : String) : Option String :=
  if isBlank text then none else some text

/-- The doc block with this summary; a blank text takes the summary away. -/
def withSummary (doc : DocBlock) (text : String) : DocBlock :=
  { doc with summary := visibleText text }

/-- The doc block with this longer description; a blank text takes the description away. -/
def withDetails (doc : DocBlock) (text : String) : DocBlock :=
  { doc with details := visibleText text }

/-- The doc block with one more tag at its end. -/
def withTag (doc : DocBlock) (name description : String) : DocBlock :=
  { doc with tags := doc.tags ++ [⟨name, description⟩] }

/-- The description of the first tag of a name. -/
def tag? (doc : DocBlock) (name : String) : Option String :=
  (doc.tags.find? (fun tag => tag.name == name)).map DocTag.description

def tagLine (tag : DocTag) : String :=
  if tag.description == "" then "@" ++ tag.name else "@" ++ tag.name ++ " " ++ tag.description

/-- The parts that are present, each as its lines. -/
def sections (doc : DocBlock) : List (List String) :=
  (doc.summary.map textLines).toList ++ (doc.details.map textLines).toList
    ++ (if doc.tags.isEmpty then [] else [doc.tags.map tagLine])

/-- A line of content behind the star that starts each line of the comment. -/
def starLine (line : String) : String :=
  if line == "" then " *" else " * " ++ line

/-- The lines of the comment at the left margin. -/
def lines (doc : DocBlock) : List String :=
  "/**" :: ((spacedBlocks doc.sections).map starLine ++ [" */"])

def render (doc : DocBlock) (indent : String) : String :=
  unlines (doc.lines.map (fun line => indent ++ line))

end DocBlock

end SoapClasses
