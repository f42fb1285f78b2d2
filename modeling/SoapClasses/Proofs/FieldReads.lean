import SoapClasses.Proofs.GeneratedTypes
import SoapClasses.Proofs.OperationMethods
import SoapClasses.Proofs.TextOccurrences
import SoapClasses.Proofs.WrittenMethods

/-!
# Fields that are read

The methods of a type class are texts that name fields, and they are drafted before any field is: whether
the names are those of fields shows only when the whole class has been made. Here the texts are read
again. Every field that they name is one of the class, and the serialization lists them all, each under
its own name and in the order of the class; line by line, this is also what the written class has.
-/

namespace SoapClasses

/-- What stands in front of the name of a field that is read. -/
def fieldMark : List Char := ['$', 't', 'h', 'i', 's', '-', '>']

/-- The names of the fields that a text reads from its object, in order. -/
def fieldsReadFrom : List Char → List (List Char)
  | [] => []
  | c :: rest =>
    if fieldMark.isPrefixOf (c :: rest) then
      ((c :: rest).drop fieldMark.length).takeWhile continuesIdentifier :: fieldsReadFrom rest
    else fieldsReadFrom rest

def fieldsRead (text : String) : List String :=
  (fieldsReadFrom text.toList).map String.ofList

/-- What follows the expected text. -/
def afterText (expected : String) (text : List Char) : Option (List Char) :=
  if expected.toList.isPrefixOf text then some (text.drop expected.toList.length) else none

/-- The key and the field of an entry of an array, where the line is one. -/
def readEntry (line : String) : Option (String × String) := do
  let quoted ← afterText "    '" line.toList
  let named ← afterText "' => $this->" (quoted.dropWhile (· != '\''))
  if named.dropWhile continuesIdentifier = [','] then
    some (String.ofList (quoted.takeWhile (· != '\'')),
      String.ofList (named.takeWhile continuesIdentifier))
  else none

/-- The entries up to the end of the array, which is to be the last line. -/
def readEntries : List String → Option (List (String × String))
  | [] => none
  | line :: rest =>
    if rest.isEmpty then if line = "];" then some [] else none
    else do
      let entry ← readEntry line
      let entries ← readEntries rest
      return entry :: entries

/-- The entries of the array that the lines return. -/
def readArray : List String → Option (List (String × String))
  | [] => none
  | line :: rest => if line = "return [" then readEntries rest else none

/-- A line of a body without the indentation that it has in a class. -/
def withoutIndentation (line : String) : Option String :=
  (afterText "        " line.toList).map String.ofList

section

variable {name : String} {front behind : List Char}

theorem fieldsReadFrom_append_of_not_mem (h : '$' ∉ front) (text : List Char) :
    fieldsReadFrom (front ++ text) = fieldsReadFrom text := by
  induction front with
  | nil => rfl
  | cons c front ih =>
    rw [List.mem_cons, not_or] at h
    have hmark : fieldMark.isPrefixOf (c :: (front ++ text)) = false := by
      rw [fieldMark, List.isPrefixOf_cons_cons, beq_eq_false_iff_ne.mpr h.1, Bool.false_and]
    rw [List.cons_append, fieldsReadFrom, hmark, if_neg Bool.false_ne_true, ih h.2]

theorem fieldsReadFrom_of_not_mem (h : '$' ∉ front) : fieldsReadFrom front = [] := by
  have hnone := fieldsReadFrom_append_of_not_mem h []
  rwa [List.append_nil] at hnone

theorem takeWhile_append_cons {p : Char → Bool} {c : Char} (hc : p c = false)
    (front behind : List Char) : (front ++ c :: behind).takeWhile p = front.takeWhile p := by
  induction front with
  | nil => simp [hc]
  | cons d front ih => simp only [List.cons_append, List.takeWhile_cons, ih]

theorem dropWhile_append_cons {p : Char → Bool} {c : Char} (h : ∀ d ∈ front, p d = true)
    (hc : p c = false) (behind : List Char) : (front ++ c :: behind).dropWhile p = c :: behind := by
  rw [List.dropWhile_append_of_pos h, List.dropWhile_cons_of_neg (by simp [hc])]

theorem fieldsReadFrom_mark (hname : ∀ c ∈ front, continuesIdentifier c = true) {c : Char}
    (hc : continuesIdentifier c = false) (behind : List Char) :
    fieldsReadFrom (fieldMark ++ (front ++ c :: behind)) = front :: fieldsReadFrom (c :: behind) := by
  have hplain : '$' ∉ "this->".toList ++ front := by
    rw [List.mem_append, not_or]
    exact ⟨by decide, fun hmem => absurd (hname '$' hmem) (by decide)⟩
  have hmark : fieldMark.isPrefixOf (fieldMark ++ (front ++ c :: behind)) = true :=
    List.isPrefixOf_iff_prefix.mpr (List.prefix_append _ _)
  have hcons : fieldMark ++ (front ++ c :: behind) =
      '$' :: ("this->".toList ++ front ++ c :: behind) := by
    rw [List.append_assoc]
    rfl
  rw [hcons] at hmark
  rw [hcons, fieldsReadFrom, if_pos hmark, fieldsReadFrom_append_of_not_mem hplain, ← hcons,
    List.drop_left, takeWhile_append_cons hc, List.takeWhile_eq_self_iff.mpr hname]

/-- A text without another mark reads the one field whose name stands behind the mark. -/
theorem fieldsRead_of_mark {before name after : String} {c : Char} {behind : List Char}
    (hbefore : '$' ∉ before.toList) (hname : isIdentifier name = true)
    (hafter : after.toList = c :: behind) (hc : continuesIdentifier c = false)
    (hnone : '$' ∉ after.toList) : fieldsRead (before ++ "$this->" ++ name ++ after) = [name] := by
  have hchars : (before ++ "$this->" ++ name ++ after).toList =
      before.toList ++ (fieldMark ++ (name.toList ++ c :: behind)) := by
    simp only [String.toList_append, hafter, List.append_assoc]
    rfl
  rw [fieldsRead, hchars, fieldsReadFrom_append_of_not_mem hbefore,
    fieldsReadFrom_mark (fun d hmem => continuesIdentifier_of_mem hname hmem) hc, ← hafter,
    fieldsReadFrom_of_not_mem hnone, List.map_singleton, String.ofList_toList]

example : fieldsRead "return $this->id;" = ["id"] := by decide +kernel

/-- A mark does not reach over the end of a line, nor does the name behind it. -/
theorem fieldsReadFrom_append_feed (front behind : List Char) :
    fieldsReadFrom (front ++ '\n' :: behind) = fieldsReadFrom front ++ fieldsReadFrom behind := by
  induction front with
  | nil =>
    have hfeed : '$' ∉ ['\n'] := by decide
    exact fieldsReadFrom_append_of_not_mem hfeed behind
  | cons c front ih =>
    have hsame : fieldMark.isPrefixOf (c :: (front ++ '\n' :: behind)) =
        fieldMark.isPrefixOf (c :: front) := by
      rw [Bool.eq_iff_iff, List.isPrefixOf_iff_prefix, List.isPrefixOf_iff_prefix]
      exact prefix_append_cons_iff (by decide) (c :: front) behind
    rw [List.cons_append, fieldsReadFrom, fieldsReadFrom, hsame, ih]
    split
    · rename_i hmark
      obtain ⟨rest, hrest⟩ := List.isPrefixOf_iff_prefix.mp hmark
      have hwhole : c :: (front ++ '\n' :: behind) = fieldMark ++ (rest ++ '\n' :: behind) := by
        rw [← List.append_assoc, hrest, List.cons_append]
      rw [hwhole, ← hrest, List.drop_left, List.drop_left, takeWhile_append_cons (by decide),
        List.cons_append]
    · rfl

theorem fieldsRead_joinText (lines : List String) :
    fieldsRead (joinText "\n" lines) = lines.flatMap fieldsRead := by
  induction lines with
  | nil => rfl
  | cons line rest ih =>
    cases rest with
    | nil => exact (List.append_nil _).symm
    | cons next rest =>
      have hchars : (joinText "\n" (line :: next :: rest)).toList =
          line.toList ++ '\n' :: (joinText "\n" (next :: rest)).toList := by
        simp [joinText_cons_cons]
      rw [fieldsRead, hchars, fieldsReadFrom_append_feed, List.map_append, List.flatMap_cons, ← ih]
      rfl

theorem afterText_append (expected : String) (text : List Char) :
    afterText expected (expected.toList ++ text) = some text := by
  rw [afterText, if_pos (List.isPrefixOf_iff_prefix.mpr (List.prefix_append _ _)), List.drop_left]

end

section

variable {property : SchemaProperty} (h : isIdentifier property.name = true)
include h

theorem readEntry_serializedEntry :
    readEntry (serializedEntry property) = some (property.name, property.name) := by
  have hname : ∀ c ∈ property.name.toList, continuesIdentifier c = true :=
    fun c hmem => continuesIdentifier_of_mem h hmem
  have hquote : ∀ c ∈ property.name.toList, (c != '\'') = true := by
    intro c hmem
    rw [bne_iff_ne]
    rintro rfl
    exact absurd (hname _ hmem) (by decide)
  have hchars : (serializedEntry property).toList = "    '".toList ++ (property.name.toList ++
      '\'' :: (" => $this->".toList ++ (property.name.toList ++ [',']))) := by
    simp [serializedEntry]
  have hfield : afterText "' => $this->" ('\'' :: (" => $this->".toList ++
      (property.name.toList ++ [',']))) = some (property.name.toList ++ [',']) :=
    afterText_append "' => $this->" _
  unfold readEntry
  simp only [hchars, afterText_append, Option.bind_eq_bind, Option.bind_some]
  rw [dropWhile_append_cons hquote (by rfl), hfield, Option.bind_some,
    dropWhile_append_cons hname (by decide), if_pos rfl, takeWhile_append_cons (by rfl),
    takeWhile_append_cons (by decide), List.takeWhile_eq_self_iff.mpr hquote,
    List.takeWhile_eq_self_iff.mpr hname, String.ofList_toList]

theorem fieldsRead_serializedEntry : fieldsRead (serializedEntry property) = [property.name] := by
  have hbefore : '$' ∉ ("    '" ++ property.name ++ "' => ").toList := by
    have hdollar : '$' ∉ property.name.toList := not_mem_of_isIdentifier h (by decide)
    simp [hdollar]
  have hentry : serializedEntry property =
      "    '" ++ property.name ++ "' => " ++ "$this->" ++ property.name ++ "," := by
    have hmark : "' => $this->" = "' => " ++ "$this->" := by decide
    rw [serializedEntry, hmark]
    simp only [String.append_assoc]
  rw [hentry]
  exact fieldsRead_of_mark hbefore h (by rfl) (by decide) (by decide)

theorem isLine_of_isIdentifier : IsLine property.name := by
  constructor
  · exact not_mem_of_isIdentifier h (by decide)
  · intro hlast
    exact absurd (continuesIdentifier_of_mem h (List.mem_of_getLast? hlast)) (by decide)

theorem isLine_serializedEntry : IsLine (serializedEntry property) := by
  have hname := isLine_of_isIdentifier h
  have hcomma : IsLine "," := by decide
  have hmark : IsLine "' => $this->" := by decide
  have hquote : IsLine "    '" := by decide
  exact hcomma.append_left (hname.append_left (hmark.append_left (hname.append_left hquote)))

end

section

variable {wrapper : String} (h : ∀ segment ∈ nameSegments wrapper, isIdentifier segment = true)
include h

theorem mem_wrapperReference {c : Char} (hmem : c ∈ (wrapperReference wrapper).toList) :
    c = '\\' ∨ continuesIdentifier c = true := by
  unfold wrapperReference at hmem
  split at hmem
  · exact .inr (continuesIdentifier_of_mem (h _ (shortName_mem_nameSegments wrapper)) hmem)
  · rw [String.toList_append, List.mem_append] at hmem
    rcases hmem with hmem | hmem
    · exact .inl (List.mem_singleton.mp hmem)
    · rw [← joinText_nameSegments wrapper] at hmem
      rcases mem_of_mem_joinText hmem with hmem | ⟨segment, hsegment, hc⟩
      · exact .inl (List.mem_singleton.mp hmem)
      · exact .inr (continuesIdentifier_of_mem (h segment hsegment) hc)

theorem not_dollar_wrapperReference : '$' ∉ (wrapperReference wrapper).toList :=
  fun hmem => absurd (mem_wrapperReference h hmem) (by decide)

theorem isLine_wrapperReference : IsLine (wrapperReference wrapper) := by
  constructor
  · exact fun hmem => absurd (mem_wrapperReference h hmem) (by decide)
  · exact fun hlast => absurd (mem_wrapperReference h (List.mem_of_getLast? hlast)) (by decide)

end

/-- A method with a well set text, in which exactly these fields are read. -/
structure Method.Reads (method : Method) (names : List String) : Prop where
  wellSet : method.IsWellSet
  fieldsRead_eq : fieldsRead method.body = names

theorem Method.reads_of_line {method : Method} {property : SchemaProperty} {before after : String}
    {c : Char} {behind : List Char} (hsignature : IsLine method.signature)
    (hbody : method.body = before ++ "$this->" ++ property.name ++ after)
    (hname : isIdentifier property.name = true) (hbefore : IsLine before)
    (hdollar : '$' ∉ before.toList) (hafter : after.toList = c :: behind)
    (hc : continuesIdentifier c = false) (hnone : '$' ∉ after.toList) (hend : IsLine after) :
    method.Reads [property.name] := by
  have hmark : IsLine "$this->" := by decide
  have hline : IsLine method.body := by
    rw [hbody]
    exact hend.append_left ((isLine_of_isIdentifier hname).append_left (hmark.append_left hbefore))
  have hne : method.body ≠ "" := by
    intro hempty
    have hchars := congrArg String.toList (hbody.symm.trans hempty)
    simp [hafter] at hchars
  refine ⟨⟨hsignature, ?_⟩, ?_⟩
  · rw [textLines_of_isLine hline hne]
    exact List.forall_mem_singleton.mpr ⟨hne, hline⟩
  · rw [hbody]
    exact fieldsRead_of_mark hdollar hname hafter hc hnone

section

variable {property : SchemaProperty} (h : isIdentifier property.name = true)
include h

theorem reads_iteratorMethod : property.iteratorMethod.Reads [property.name] := by
  have hsignature : IsLine "public function getIterator(): \\ArrayIterator" := by decide
  have hbefore : IsLine "return new \\ArrayIterator(" := by decide
  have hbody : property.iteratorMethod.body =
      "return new \\ArrayIterator(" ++ "$this->" ++ property.name ++ ");" := by
    rfl
  exact Method.reads_of_line hsignature hbody h hbefore (by decide) (by rfl) (by decide) (by decide)
    (by decide)

theorem reads_resultMethod {wrapper : Option String}
    (hwrapper : ∀ name, wrapper = some name →
      ∀ segment ∈ nameSegments name, isIdentifier segment = true) :
    (property.resultMethod wrapper).Reads [property.name] := by
  have hsignature : IsLine ("public function getResult(): " ++
      renderType RuntimeNames.resultInterface) := by decide +kernel
  cases wrapper with
  | none =>
    have hbefore : IsLine "return " := by decide
    have hbody : (property.resultMethod none).body =
        "return " ++ "$this->" ++ property.name ++ ";" := by
      rfl
    exact Method.reads_of_line hsignature hbody h hbefore (by decide) (by rfl) (by decide)
      (by decide) (by decide)
  | some name =>
    have hopening : "($this->" = "(" ++ "$this->" := by decide
    have hbody : (property.resultMethod (some name)).body =
        "return new " ++ wrapperReference name ++ "(" ++ "$this->" ++ property.name ++ ");" := by
      simp only [SchemaProperty.resultMethod, hopening, String.append_assoc]
    have hreference := isLine_wrapperReference (hwrapper name rfl)
    have hnew : IsLine "return new " := by decide
    have hparenthesis : IsLine "(" := by decide
    have hdollar : '$' ∉ ("return new " ++ wrapperReference name ++ "(").toList := by
      simp [not_dollar_wrapperReference (hwrapper name rfl)]
    exact Method.reads_of_line hsignature hbody h
      (hparenthesis.append_left (hreference.append_left hnew)) hdollar (by rfl) (by decide)
      (by decide) (by decide)

end

namespace SchemaType

variable {schema : SchemaType}
  (h : ∀ property ∈ schema.properties, isIdentifier property.name = true)
include h

theorem textLines_serializeMethod : textLines schema.serializeMethod.body =
    "return [" :: (schema.properties.map serializedEntry ++ ["];"]) := by
  have hlines : ∀ line ∈ "return [" :: (schema.properties.map serializedEntry ++ ["];"]),
      IsLine line := by
    rw [List.forall_mem_cons, List.forall_mem_append, List.forall_mem_map, List.forall_mem_singleton]
    exact ⟨by decide, fun property hmem => isLine_serializedEntry (h property hmem), by decide⟩
  apply textLines_joinText (List.cons_ne_nil _ _)
  · exact fun line hmem => (hlines line hmem).noFeed
  · exact fun line hmem => (hlines line hmem).noReturn
  · rw [← List.cons_append, List.getLast?_concat]
    decide

theorem fieldsRead_serializeMethod :
    fieldsRead schema.serializeMethod.body = schema.properties.map SchemaProperty.name := by
  have hopening : fieldsRead "return [" = [] := by decide
  have hclosing : fieldsRead "];" = [] := by decide
  have hentries : schema.properties.flatMap (fun property => fieldsRead (serializedEntry property)) =
      schema.properties.map SchemaProperty.name := by
    rw [List.map_eq_flatMap]
    exact List.flatMap_congr (fun property hmem => fieldsRead_serializedEntry (h property hmem))
  rw [serializeMethod, fieldsRead_joinText, List.flatMap_cons, List.flatMap_append,
    List.flatMap_singleton, hopening, hclosing, List.flatMap_map, hentries]
  simp

theorem readArray_serializeMethod : readArray (textLines schema.serializeMethod.body) =
    some (schema.properties.map (fun property => (property.name, property.name))) := by
  have hentries : ∀ properties : List SchemaProperty,
      (∀ property ∈ properties, isIdentifier property.name = true) →
      readEntries (properties.map serializedEntry ++ ["];"]) =
        some (properties.map (fun property => (property.name, property.name))) := by
    intro properties hnames
    induction properties with
    | nil => rfl
    | cons property rest ih =>
      rw [List.forall_mem_cons] at hnames
      have hmore : (rest.map serializedEntry ++ ["];"]).isEmpty = false := by simp
      rw [List.map_cons, List.cons_append, readEntries, hmore, if_neg Bool.false_ne_true,
        readEntry_serializedEntry hnames.1, ih hnames.2]
      rfl
  rw [textLines_serializeMethod h, readArray, if_pos rfl, hentries schema.properties h]

theorem reads_serializeMethod :
    schema.serializeMethod.Reads (schema.properties.map SchemaProperty.name) := by
  have hsignature : IsLine "public function jsonSerialize(): array" := by decide
  refine ⟨⟨hsignature, ?_⟩, fieldsRead_serializeMethod h⟩
  rw [textLines_serializeMethod h, List.forall_mem_cons, List.forall_mem_append, List.forall_mem_map,
    List.forall_mem_singleton]
  refine ⟨⟨by decide, by decide⟩, ?_, ⟨by decide, by decide⟩⟩
  intro property hmem
  refine ⟨?_, isLine_serializedEntry (h property hmem)⟩
  intro hempty
  have hchars := congrArg String.toList hempty
  simp [serializedEntry] at hchars

end SchemaType

theorem mapM_withoutIndentation (lines : List String) :
    (lines.map (fun line => "        " ++ line)).mapM withoutIndentation = some lines := by
  induction lines with
  | nil => rfl
  | cons line rest ih =>
    have hline : withoutIndentation ("        " ++ line) = some line := by
      rw [withoutIndentation, String.toList_append, afterText_append, Option.map_some,
        String.ofList_toList]
    rw [List.map_cons, List.mapM_cons, hline, ih]
    rfl

/-- The fields of the class are all that its methods read. The serialization is an array of them, where it
stands in the text of the class too. -/
structure PhpClass.ReadsOwnFields (php : PhpClass) : Prop where
  own : ∀ method ∈ php.methods.toList, ∀ name ∈ fieldsRead method.body, name ∈ php.fields.names
  written : ∀ method ∈ php.methods.toList, ∃ before after : List String,
    php.lines = before ++ method.writtenLines ++ after ∧
      textLines php.render =
        textLines (unlines before) ++ method.writtenLines ++ textLines (unlines after)
  serialized : ∀ method ∈ php.methods.toList, method.name = "jsonSerialize" →
    readArray (textLines method.body) = some (php.fields.names.map (fun name => (name, name)))
  serializedInText : "jsonSerialize" ∈ php.methods.names → ∃ before block after : List String,
    textLines php.render = before ++ ["    public function jsonSerialize(): array", "    \x7b"] ++
      block ++ ["    \x7d"] ++ after ∧
    (block.mapM withoutIndentation).bind readArray =
      some (php.fields.names.map (fun name => (name, name)))

namespace SchemaType

variable {settings : GeneratorSettings} {schema : SchemaType} {php : PhpClass}

theorem MadeInto.names_fields (h : schema.MadeInto settings php) :
    php.fields.names = schema.properties.map SchemaProperty.name := by
  rw [MemberTable.names, h.fields, List.map_map]
  rfl

theorem MadeInto.eq_serializeMethod (h : schema.MadeInto settings php) : ∀ method ∈ php.methods.toList,
    method.name = "jsonSerialize" → method = schema.serializeMethod := by
  rw [h.methods, forall_mem_capabilityMethods_iff (fun _ => rfl)]
  constructor
  · intro _ first _ hname
    have hother : "getIterator" = "jsonSerialize" := hname
    exact absurd hother (by decide)
  · intro _ first _ hname
    rw [first.name_resultMethod] at hname
    exact absurd hname (by decide)

/-- The methods of the class for a type read declared fields only, and the serialization reads each of them
once, in the order of the class and under its own name. -/
theorem readsOwnFields_of_generateType (settings : GeneratorSettings) (schema : SchemaType)
    (php : PhpClass) (h : generateType settings schema = .ok php) : php.ReadsOwnFields := by
  obtain ⟨hwraps, hnames⟩ := exists_generateType_iff.mp ⟨php, h⟩
  have hmade := madeInto_of_generateType h
  have hfirst : ∀ first, schema.properties.head? = some first → first ∈ schema.properties :=
    fun first hhead => List.mem_of_head? hhead
  have hreads : ∀ method ∈ php.methods.toList,
      ∃ names ⊆ schema.properties.map SchemaProperty.name, method.Reads names := by
    rw [hmade.methods, forall_mem_capabilityMethods_iff
      ⟨_, List.Subset.refl _, reads_serializeMethod hnames⟩]
    constructor
    · intro _ first hhead
      exact ⟨[first.name], by simpa using ⟨first, hfirst first hhead, rfl⟩,
        reads_iteratorMethod (hnames first (hfirst first hhead))⟩
    · intro hprovides first hhead
      have hne : schema.properties ≠ [] := List.ne_nil_of_mem (hfirst first hhead)
      exact ⟨[first.name], by simpa using ⟨first, hfirst first hhead, rfl⟩,
        reads_resultMethod (hnames first (hfirst first hhead)) (hwraps hprovides hne)⟩
  have hwritten : ∀ method ∈ php.methods.toList, ∃ before after : List String,
      php.lines = before ++ method.writtenLines ++ after ∧
        textLines php.render =
          textLines (unlines before) ++ method.writtenLines ++ textLines (unlines after) := by
    intro method hmem
    obtain ⟨_, _, hreads⟩ := hreads method hmem
    exact PhpClass.exists_textLines_render hmem hreads.wellSet
  have hserialized : readArray (textLines schema.serializeMethod.body) =
      some (php.fields.names.map (fun name => (name, name))) := by
    rw [readArray_serializeMethod hnames, hmade.names_fields, List.map_map]
    rfl
  constructor
  · intro method hmem name hread
    obtain ⟨names, hdeclared, hreads⟩ := hreads method hmem
    rw [hreads.fieldsRead_eq] at hread
    rw [hmade.names_fields]
    exact hdeclared hread
  · exact hwritten
  · intro method hmem hname
    rw [hmade.eq_serializeMethod method hmem hname]
    exact hserialized
  · intro hname
    obtain ⟨method, hmem, hname⟩ := List.mem_map.mp hname
    obtain ⟨before, after, _, htext⟩ := hwritten method hmem
    rw [hmade.eq_serializeMethod method hmem hname] at htext
    refine ⟨textLines (unlines before), (textLines schema.serializeMethod.body).map
      (fun line => "        " ++ line), textLines (unlines after), ?_, ?_⟩
    · rw [htext, Method.writtenLines]
      simp only [List.append_assoc]
      rfl
    · rw [mapM_withoutIndentation]
      exact hserialized

/-- A type with two properties. -/
def ofTwoProperties : SchemaType where
  ns := "App\\Type"
  name := "order"
  properties := [⟨"id", "int", "", {}⟩, ⟨"lines", "Line", "App\\Type", {}⟩]
  xsdType := "Order"
  distinct := by decide

theorem readsOwnFields_of_generateType_two_properties :
    ∃ php, generateType allCapabilities ofTwoProperties = .ok php ∧ php.ReadsOwnFields ∧
      php.fields.names = ["id", "lines"] ∧
      php.methods.names = ["getIterator", "jsonSerialize", "getResult"] := by
  have hwrapper : ofTwoProperties.WrapsWell allCapabilities :=
    wrapperFault_eq_none_iff.mp (Option.isNone_iff_eq_none.mp (by decide +kernel))
  obtain ⟨php, hphp⟩ := exists_generateType_iff.mpr ⟨hwrapper, by decide +kernel⟩
  have hmade := madeInto_of_generateType hphp
  refine ⟨php, hphp, readsOwnFields_of_generateType _ _ php hphp, ?_, ?_⟩
  · rw [hmade.names_fields]
    rfl
  · rw [MemberTable.names, hmade.methods]
    rfl

end SchemaType

end SoapClasses
