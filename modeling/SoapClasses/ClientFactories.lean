import SoapClasses.AssemblyErrors
import SoapClasses.PhpClasses
import SoapClasses.RuntimeNames
import SoapClasses.TextPieces

/-!
# Client factories

The factory of a client is a class with one static method that wires the engine of the runtime
library, the class map and the event dispatching caller into a client. It is made from names alone.
-/

namespace SoapClasses

/-- The place of the name of the class map in the body of the method. -/
def classmapPlaceholder : String := "\x7bclassmap\x7d"

/-- The place of the name of the client in the body of the method. -/
def clientPlaceholder : String := "\x7bclient\x7d"

/-- The body of the method before the names are filled in. -/
def factoryTemplate : String :=
  joinText "\n" [
    "$engine = DefaultEngineFactory::create(",
    "    EngineOptions::defaults($wsdl)",
    "        ->withEncoderRegistry(",
    "            EncoderRegistry::default()->addClassMapCollection(",
    "                " ++ classmapPlaceholder ++ "::getCollection()",
    "            )",
    "        )",
    "        // If you want to enable WSDL caching:",
    "        // ->withCache()",
    "        // If you want to use Alternate HTTP settings:",
    "        // ->withWsdlLoader()",
    "        // ->withTransport()",
    "        // If you want specific SOAP setting:",
    "        // ->withWsdlParserContext()",
    "        // ->withPreferredSoapVersion()",
    ");",
    "",
    "$eventDispatcher = new EventDispatcher();",
    "$caller = new EventDispatchingCaller(new EngineCaller($engine), $eventDispatcher);",
    "",
    "return new " ++ clientPlaceholder ++ "($caller);"]

namespace FactoryNames

/-- The names that the factory imports, as far as they are qualified. -/
def imports (names : FactoryNames) : List String :=
  [names.client, names.classmap, RuntimeNames.eventDispatcher,
    RuntimeNames.defaultEngineFactory, RuntimeNames.engineOptions,
    RuntimeNames.eventDispatchingCaller, RuntimeNames.engineCaller,
    RuntimeNames.encoderRegistry].filter isQualified

/-- The body of the method: the name of the class map is filled in first, then the client's. -/
def body (names : FactoryNames) : String :=
  replaceText clientPlaceholder names.clientName
    (replaceText classmapPlaceholder names.classmapName factoryTemplate)

def method (names : FactoryNames) : Method where
  name := "factory"
  isStatic := true
  parameters := [⟨"wsdl", some "string"⟩]
  returnType := some names.client
  body := names.body
  doc := some (DocBlock.empty.withSummary
    ("This factory can be used as a starting point to create your own specialized factory. "
      ++ "Feel free to modify."))

/-- Refuses a client or class map whose name is no identifier. -/
def check (names : FactoryNames) : Except NamingError Unit := do
  requireIdentifier .className names.clientName
  requireIdentifier .className names.classmapName

def factoryClass (names : FactoryNames) : PhpClass :=
  (PhpClass.fresh names.factoryName names.clientNs).amendAll
    (names.imports.map (fun name => .addImport name none) ++ [.putMethod names.method])

end FactoryNames

/-- The factory for a context of names; contexts of other kinds are refused. -/
def generateFactory : GenerationContext → Except AssemblyError PhpClass
  | .factory names =>
    match names.check with
    | .ok _ => .ok names.factoryClass
    | .error error =>
      .error (.generation "ClientFactoryGenerator" names.factory "factory" error)
  | context =>
    .error (.contextMismatch "ClientFactoryGenerator" "ClientFactoryContext" context.kind)

end SoapClasses
