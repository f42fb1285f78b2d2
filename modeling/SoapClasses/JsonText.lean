import SoapClasses.JsonTrees

/-!
# Reading JSON text

The bytes of a JSON text are read from left to right into a tree. Reading never fails: where the bytes
are no JSON the tree says so, and nothing after that place is looked at. Texts are UTF-8 with the
escapes of JSON; a lone surrogate and a byte that is not UTF-8 make a text unreadable, and so does an
exponent that leads beyond double precision make a number.
-/

namespace SoapClasses.JsonText

abbrev Bytes := List UInt8

/-- Something read, and the bytes behind it unless the reading stopped. -/
structure Reading (α : Type) where
  value : α
  rest : Option Bytes

def isBlankByte (b : UInt8) : Bool :=
  b == 0x20 || b == 0x09 || b == 0x0A || b == 0x0D

def skipBlanks (bytes : Bytes) : Bytes :=
  bytes.dropWhile isBlankByte

def digit? (b : UInt8) : Option Nat :=
  if 0x30 ≤ b && b ≤ 0x39 then some (b.toNat - 0x30) else none

def hexDigit? (b : UInt8) : Option Nat :=
  if 0x30 ≤ b && b ≤ 0x39 then some (b.toNat - 0x30)
  else if 0x41 ≤ b && b ≤ 0x46 then some (b.toNat - 0x37)
  else if 0x61 ≤ b && b ≤ 0x66 then some (b.toNat - 0x57)
  else none

/-- The digits at the front, and what follows them. -/
def spanDigits : Bytes → List Nat × Bytes
  | [] => ([], [])
  | b :: rest =>
    match digit? b with
    | some d => (d :: (spanDigits rest).1, (spanDigits rest).2)
    | none => ([], b :: rest)

/-! ## Texts -/

/-- A part of a text: a byte that stands for itself, or a unit of UTF-16 that was escaped. -/
inductive TextPart where
  | byte (value : UInt8)
  | unit (value : Nat)

def shortEscape? (b : UInt8) : Option UInt8 :=
  if b == 0x22 || b == 0x5C || b == 0x2F then some b
  else if b == 0x62 then some 0x08
  else if b == 0x66 then some 0x0C
  else if b == 0x6E then some 0x0A
  else if b == 0x72 then some 0x0D
  else if b == 0x74 then some 0x09
  else none

def escapedUnit? (a b c d : UInt8) : Option Nat := do
  return ((((← hexDigit? a) * 16 + (← hexDigit? b)) * 16 + (← hexDigit? c)) * 16 + (← hexDigit? d))

/-- The parts of a text up to the closing quote and the bytes behind it. -/
def textParts? : Bytes → Option (List TextPart × Bytes)
  | [] => none
  | head :: rest =>
    if head == 0x22 then some ([], rest)
    else if head == 0x5C then
      match rest with
      | [] => none
      | escape :: more =>
        if escape == 0x75 then
          match more with
          | a :: b :: c :: d :: tail =>
            match escapedUnit? a b c d, textParts? tail with
            | some unit, some (parts, behind) => some (.unit unit :: parts, behind)
            | _, _ => none
          | _ => none
        else
          match shortEscape? escape, textParts? more with
          | some b, some (parts, behind) => some (.byte b :: parts, behind)
          | _, _ => none
    else if head < 0x20 then none
    else
      match textParts? rest with
      | some (parts, behind) => some (.byte head :: parts, behind)
      | none => none

def utf8 (point : Nat) : Bytes :=
  String.utf8EncodeChar (Char.ofNat point)

def isLeading (unit : Nat) : Bool :=
  0xD800 ≤ unit && unit ≤ 0xDBFF

def isTrailing (unit : Nat) : Bool :=
  0xDC00 ≤ unit && unit ≤ 0xDFFF

/-- The bytes of the parts; surrogates count in pairs only. -/
def partBytes? : List TextPart → Option Bytes
  | [] => some []
  | .byte b :: rest => (partBytes? rest).map (b :: ·)
  | .unit first :: rest =>
    if isTrailing first then none
    else if isLeading first then
      match rest with
      | .unit second :: more =>
        if isTrailing second then
          (partBytes? more).map
            (utf8 (0x10000 + (first - 0xD800) * 0x400 + (second - 0xDC00)) ++ ·)
        else none
      | _ => none
    else (partBytes? rest).map (utf8 first ++ ·)

def utf8Text? (bytes : Bytes) : Option String :=
  String.fromUTF8? ⟨bytes.toArray⟩

def readText (bytes : Bytes) : Reading JsonTree :=
  match textParts? bytes with
  | none => ⟨.broken, none⟩
  | some (parts, rest) =>
    match (partBytes? parts).bind utf8Text? with
    | some text => ⟨.text text, some rest⟩
    | none => ⟨.unreadable, some rest⟩

/-! ## Numbers -/

/-- A number as it is written. -/
structure NumberLiteral where
  negative : Bool
  whole : List Nat
  fraction : List Nat
  /-- Whether a fraction or an exponent is written. -/
  isInteger : Bool
  exponentNegative : Bool
  exponent : List Nat

def wordLimit : Nat := 0xFFFFFFFFFFFFFFFF

/-- The value of the digits from a start on as long as it stays within the limit, and the digits
that did not fit. -/
def takeDigits (limit : Nat) : Nat → List Nat → Nat × List Nat
  | value, [] => (value, [])
  | value, d :: rest =>
    if value * 10 + d ≤ limit then takeDigits limit (value * 10 + d) rest else (value, d :: rest)

/-- A number of 64 bits times a power of ten, computed in double precision; none beyond its range.
Exponents outside the table of powers are reduced in steps of 308, of which three are enough. -/
def scaleFloat : Nat → Float → Int → Option Float
  | 0, f, _ => some f
  | steps + 1, f, exponent =>
    if exponent.natAbs ≤ 308 then
      let power := Float.ofScientific 1 false exponent.natAbs
      if 0 ≤ exponent then (if (f * power).isInf then none else some (f * power))
      else some (f / power)
    else if f == 0 then some f
    else if 0 ≤ exponent then none
    else scaleFloat steps (f / Float.ofScientific 1 false 308) (exponent + 308)

def NumberLiteral.tree (literal : NumberLiteral) : JsonTree :=
  let signed (f : Float) : JsonTree := .float (if literal.negative then -f else f)
  let (whole, dropped) := takeDigits wordLimit 0 literal.whole
  if literal.isInteger && dropped.isEmpty then
    if !literal.negative then .integer whole
    else if whole == 0 || 0x8000000000000000 < whole then signed whole.toUInt64.toFloat
    else .integer (-whole)
  else
    let (significand, unused) := takeDigits wordLimit whole literal.fraction
    let start : Int := dropped.length - (literal.fraction.length - unused.length : Nat)
    let (exponent, excess) := takeDigits 0x7FFFFFFF 0 literal.exponent
    let scaled : Option Float :=
      if excess.isEmpty then
        scaleFloat 4 significand.toUInt64.toFloat
          (if literal.exponentNegative then start - exponent else start + exponent)
      else if significand != 0 && !literal.exponentNegative then none
      else some 0
    match scaled with
    | some f => signed f
    | none => .unreadable

/-- The exponent of a number, if one is written, and what follows. -/
def readExponent (literal : NumberLiteral) : Bytes → Option (NumberLiteral × Bytes)
  | [] => some (literal, [])
  | mark :: rest =>
    if mark == 0x65 || mark == 0x45 then
      let (negative, digits) := match rest with
        | sign :: more =>
          if sign == 0x2D then (true, more) else if sign == 0x2B then (false, more)
          else (false, rest)
        | [] => (false, [])
      let (exponent, behind) := spanDigits digits
      if exponent.isEmpty then none
      else
        some ({ literal with
          isInteger := false, exponentNegative := negative, exponent := exponent }, behind)
    else some (literal, mark :: rest)

/-- The fraction and exponent of a number, and what follows. -/
def readFraction (literal : NumberLiteral) : Bytes → Option (NumberLiteral × Bytes)
  | [] => some (literal, [])
  | mark :: rest =>
    if mark == 0x2E then
      let (fraction, behind) := spanDigits rest
      if fraction.isEmpty then none
      else readExponent { literal with isInteger := false, fraction := fraction } behind
    else readExponent literal (mark :: rest)

/-- The digits of a number without its sign. A zero at the front stands alone. -/
def readNumber (negative : Bool) (bytes : Bytes) : Reading JsonTree :=
  let (whole, rest) := spanDigits bytes
  let literal : NumberLiteral := ⟨negative, whole, [], true, false, []⟩
  let found := match whole with
    | [] => none
    | 0 :: _ :: _ => none
    | _ => readFraction literal rest
  match found with
  | some (literal, rest) => ⟨literal.tree, some rest⟩
  | none => ⟨.broken, none⟩

/-! ## Values -/

/-- A word of the language, which must stand there letter by letter. -/
def readWord (word : String) (value : JsonTree) (bytes : Bytes) : Reading JsonTree :=
  let letters := word.toUTF8.toList
  if letters.isPrefixOf bytes then ⟨value, some (bytes.drop letters.length)⟩ else ⟨.broken, none⟩

mutual

/-- The value at the front. Each step into a value takes a byte, so as many steps as there are bytes
are enough. -/
def readValue : Nat → Bytes → Reading JsonTree
  | 0, _ => ⟨.broken, none⟩
  | steps + 1, bytes =>
    match skipBlanks bytes with
    | [] => ⟨.broken, none⟩
    | head :: rest =>
      if head == 0x22 then readText rest
      else if head == 0x5B then
        let items := readFirstItem steps rest
        ⟨.array items.value, items.rest⟩
      else if head == 0x7B then
        let members := readFirstMember steps rest
        ⟨.object members.value, members.rest⟩
      else if head == 0x2D then readNumber true rest
      else if (digit? head).isSome then readNumber false (head :: rest)
      else if head == 0x6E then readWord "null" .null (head :: rest)
      else if head == 0x74 then readWord "true" (.bool true) (head :: rest)
      else if head == 0x66 then readWord "false" (.bool false) (head :: rest)
      else ⟨.broken, none⟩

def readFirstItem : Nat → Bytes → Reading (List JsonTree)
  | 0, _ => ⟨[.broken], none⟩
  | steps + 1, bytes =>
    match skipBlanks bytes with
    | 0x5D :: rest => ⟨[], some rest⟩
    | bytes => readItems steps bytes

def readItems : Nat → Bytes → Reading (List JsonTree)
  | 0, _ => ⟨[.broken], none⟩
  | steps + 1, bytes =>
    match readValue steps bytes with
    | ⟨item, none⟩ => ⟨[item], none⟩
    | ⟨item, some rest⟩ =>
      match skipBlanks rest with
      | 0x5D :: rest => ⟨[item], some rest⟩
      | 0x2C :: rest =>
        let others := readItems steps rest
        ⟨item :: others.value, others.rest⟩
      | _ => ⟨[item, .broken], none⟩

def readFirstMember : Nat → Bytes → Reading (List (JsonTree × JsonTree))
  | 0, _ => ⟨[(.broken, .broken)], none⟩
  | steps + 1, bytes =>
    match skipBlanks bytes with
    | 0x7D :: rest => ⟨[], some rest⟩
    | bytes => readMembers steps bytes

/-- The members from one on. Behind a key that is no text nothing is read. -/
def readMembers : Nat → Bytes → Reading (List (JsonTree × JsonTree))
  | 0, _ => ⟨[(.broken, .broken)], none⟩
  | steps + 1, bytes =>
    match skipBlanks bytes with
    | 0x22 :: rest =>
      match readText rest with
      | ⟨key, none⟩ => ⟨[(key, .broken)], none⟩
      | ⟨key, some rest⟩ =>
        match skipBlanks rest with
        | 0x3A :: rest =>
          match readValue steps rest with
          | ⟨value, none⟩ => ⟨[(key, value)], none⟩
          | ⟨value, some rest⟩ =>
            match skipBlanks rest with
            | 0x7D :: rest => ⟨[(key, value)], some rest⟩
            | 0x2C :: rest =>
              let others := readMembers steps rest
              ⟨(key, value) :: others.value, others.rest⟩
            | _ => ⟨[(key, value), (.broken, .broken)], none⟩
        | _ => ⟨[(key, .broken)], none⟩
    | bytes => ⟨[((readValue steps bytes).value, .broken)], none⟩

end

def read (bytes : Bytes) : Reading JsonTree :=
  readValue (2 * bytes.length + 2) bytes

def Reading.isComplete {α : Type} (reading : Reading α) : Bool :=
  match reading.rest with
  | some rest => rest.all isBlankByte
  | none => false

end SoapClasses.JsonText
