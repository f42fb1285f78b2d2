/-!
# JSON as it was read

A tree keeps what a reader of JSON text has seen from left to right: members in their order, repeated
keys included, and the place where the text stopped being JSON. Whoever decodes the tree in the same
order meets that place at the same moment as someone who reads the text.
-/

namespace SoapClasses

/-- JSON text, as far as it could be read. -/
inductive JsonTree where
  | null
  | bool (value : Bool)
  /-- A number without fraction and exponent that fits 64 bits. -/
  | integer (value : Int)
  /-- Any other number. -/
  | float (value : Float)
  | text (value : String)
  | array (items : List JsonTree)
  /-- Keys are texts, except that the last one may be something else where a key was expected. -/
  | object (members : List (JsonTree × JsonTree))
  /-- A number or text that is well formed and has no value. -/
  | unreadable
  /-- The place where the text is no JSON. -/
  | broken
  deriving Inhabited

namespace JsonTree

def record (members : List (String × JsonTree)) : JsonTree :=
  .object (members.map (fun member => (.text member.1, member.2)))

def optional {α : Type} (encode : α → JsonTree) : Option α → JsonTree
  | none => .null
  | some value => encode value

mutual

/-- Whether the text of the tree is JSON to its end. -/
def isWhole : JsonTree → Bool
  | .array items => itemsWhole items
  | .object members => membersWhole members
  | .broken => false
  | _ => true

def itemsWhole : List JsonTree → Bool
  | [] => true
  | item :: rest => isWhole item && itemsWhole rest

def membersWhole : List (JsonTree × JsonTree) → Bool
  | [] => true
  | (key, value) :: rest => isWhole key && isWhole value && membersWhole rest

end

mutual

/-- Whether every value in the tree can be read. -/
def isReadable : JsonTree → Bool
  | .array items => itemsReadable items
  | .object members => membersReadable members
  | .broken => false
  | .unreadable => false
  | _ => true

def itemsReadable : List JsonTree → Bool
  | [] => true
  | item :: rest => isReadable item && itemsReadable rest

def membersReadable : List (JsonTree × JsonTree) → Bool
  | [] => true
  | (key, value) :: rest => isReadable key && isReadable value && membersReadable rest

end

mutual

/-- The number of arrays and objects around the innermost value. -/
def depth : JsonTree → Nat
  | .array items => itemsDepth items + 1
  | .object members => membersDepth members + 1
  | _ => 0

def itemsDepth : List JsonTree → Nat
  | [] => 0
  | item :: rest => max (depth item) (itemsDepth rest)

/-- The depth of the deepest value of the members. -/
def membersDepth : List (JsonTree × JsonTree) → Nat
  | [] => 0
  | (_, value) :: rest => max (depth value) (membersDepth rest)

end

end JsonTree

end SoapClasses
