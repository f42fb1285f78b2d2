import SoapClasses.ClientAssembly
import SoapClasses.FieldAssembly
import SoapClasses.QuotedText
import SoapClasses.TypeAssembly

/-!
# Assemblers and pipelines

An assembler is one step of the generation of a class. It works on contexts of certain kinds and
refuses the others before it touches the class. Running it twice leaves the class as it was after the
first run. A pipeline runs a list of assemblers on one context and skips those that do not work on it.
-/

namespace SoapClasses

/-- The steps of the generation. -/
inductive Assembler where
  /-- The caller and the constructor of a client. -/
  | clientConstructor
  /-- The method of a client for an operation. -/
  | clientMethod
  /-- The field for a property. -/
  | property (settings : FieldSettings)
  /-- An interface that a type implements. -/
  | interface (name : String)
  /-- An import. -/
  | use (name : String) (aliasName : Option String)
  | iterator
  | jsonSerializable
  | resultProvider (wrapper : Option String)
  deriving DecidableEq, Repr

namespace Assembler

def name : Assembler → String
  | .clientConstructor => "ClientConstructorAssembler"
  | .clientMethod => "ClientMethodAssembler"
  | .property _ => "PropertyAssembler"
  | .interface _ => "InterfaceAssembler"
  | .use _ _ => "UseAssembler"
  | .iterator => "IteratorAssembler"
  | .jsonSerializable => "JsonSerializableAssembler"
  | .resultProvider _ => "ResultProviderAssembler"

/-- The kinds of contexts that an assembler works on, as messages name them. -/
def expected : Assembler → String
  | .clientConstructor => "ClientContext"
  | .clientMethod => "ClientMethodContext"
  | .property _ => "PropertyContext"
  | .use _ _ => "TypeContext or PropertyContext"
  | _ => "TypeContext"

/-- Whether an assembler works on contexts of a kind. -/
def accepts : Assembler → ContextKind → Bool
  | .clientConstructor, .client => true
  | .clientMethod, .operation => true
  | .property _, .property => true
  | .use _ _, .property => true
  | .use _ _, .schemaType => true
  | .interface _, .schemaType => true
  | .iterator, .schemaType => true
  | .jsonSerializable, .schemaType => true
  | .resultProvider _, .schemaType => true
  | _, _ => false

/-- The edits that an assembler makes to a class, or its refusal of the context. -/
def draft (owner : ClassIdentity) : Assembler → GenerationContext → Draft AssemblyError Unit
  | .clientConstructor, .client => draftConstructor owner
  | .clientMethod, .operation operation => draftOperation owner operation
  | .property settings, .property _ subject => draftField owner settings subject
  | .use name aliasName, .property _ _ => draftImport owner name aliasName
  | .use name aliasName, .schemaType _ => draftImport owner name aliasName
  | .interface name, .schemaType _ => draftInterface owner name
  | .iterator, .schemaType schema => draftIterator owner schema
  | .jsonSerializable, .schemaType schema => draftSerialization owner schema
  | .resultProvider wrapper, .schemaType schema => draftResultProvider owner wrapper schema
  | assembler, context =>
    .fail (.contextMismatch assembler.name assembler.expected context.kind)

/-- Runs an assembler on a class: how it ended, and the class after the edits it made. -/
def assemble (assembler : Assembler) (context : GenerationContext) (php : PhpClass) :
    Except AssemblyError Unit × PhpClass :=
  let draft := assembler.draft php.toClassIdentity context
  (draft.outcome, draft.applyTo php)

end Assembler

def describePipeline (assemblers : List Assembler) : String :=
  "Pipeline \x7b assemblers: ["
    ++ joinText ", " (assemblers.map (fun assembler => quoted assembler.name)) ++ "] \x7d"

/-- Runs the assemblers that work on the context, in order, up to the first failure: the number of
assemblers that ran, and the class they leave. -/
def runPipeline : List Assembler → GenerationContext → PhpClass →
    Except AssemblyError Nat × PhpClass
  | [], _, php => (.ok 0, php)
  | assembler :: rest, context, php =>
    if assembler.accepts context.kind then
      match assembler.assemble context php with
      | (.ok _, next) =>
        match runPipeline rest context next with
        | (.ok count, last) => (.ok (count + 1), last)
        | (.error error, last) => (.error error, last)
      | (.error error, next) => (.error error, next)
    else runPipeline rest context php

end SoapClasses
