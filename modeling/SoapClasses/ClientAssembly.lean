import SoapClasses.AssemblyErrors
import SoapClasses.RuntimeNames
import SoapClasses.TypeReferences

/-!
# The members of a client class

A client class has a field for the caller, a constructor that fills it, and one method per operation.
An operation without arguments sends an empty aggregate request, a single argument is passed on as it
is, and several arguments travel in one aggregate request. The shape of the arguments is decided once;
signature, call and doc block follow from it.
-/

namespace SoapClasses

/-- How the arguments of an operation reach the service. -/
inductive ArgumentShape where
  | nothing
  | single (argument : Argument)
  | aggregate (arguments : List Argument)
  deriving DecidableEq, Repr

namespace ArgumentShape

def ofArguments : List Argument → ArgumentShape
  | [] => .nothing
  | [argument] => .single argument
  | arguments => .aggregate arguments

def parameters : ArgumentShape → List Parameter
  | .nothing => []
  | .single argument => [⟨argument.name, some argument.typeName⟩]
  | .aggregate _ =>
    [⟨RuntimeNames.multiArgumentParameter, some RuntimeNames.multiArgumentRequest⟩]

/-- The expression that the method hands to the caller. -/
def callArgument (owner : ClassIdentity) : ArgumentShape → Draft NamingError String
  | .nothing => do
    let request ← referTo owner .plain RuntimeNames.multiArgumentRequest
    return "new " ++ request ++ "([])"
  | .single argument => .done ("$" ++ argument.name)
  | .aggregate _ => .done ("$" ++ RuntimeNames.multiArgumentParameter)

end ArgumentShape

namespace ResultType

/-- The type in the signature and in the check at run time. -/
def signatureType (result : ResultType) : String :=
  if result.isMixed then RuntimeNames.mixedResult else result.typeName

def documentedType (owner : ClassIdentity) (result : ResultType) : Draft NamingError String :=
  if result.isMixed then do
    let wrapper ← referTo owner .plain RuntimeNames.mixedResult
    return wrapper ++ "<" ++ result.typeName ++ ">"
  else referTo owner .withParent result.typeName

end ResultType

namespace Operation

def documented (operation : Operation) : DocBlock :=
  DocBlock.empty.withSummary (operation.docs.getD "")

/-- The longer description that lists the arguments of an aggregate request. -/
def argumentList (arguments : List Argument) : String :=
  joinText "\n" ("MultiArgumentRequest with following params:\n" ::
    arguments.map (fun argument => argument.typeName ++ " $" ++ argument.name))

def parameterDoc (owner : ClassIdentity) (operation : Operation) :
    ArgumentShape → Draft NamingError DocBlock
  | .nothing => .done operation.documented
  | .single argument => do
    let request ← referTo owner .plain RuntimeNames.requestInterface
    let type ← referTo owner .withParent argument.typeName
    return operation.documented.withTag "param"
      (request ++ " & " ++ type ++ " $" ++ argument.name)
  | .aggregate arguments => do
    let request ← referTo owner .plain RuntimeNames.multiArgumentRequest
    return (operation.documented.withDetails (argumentList arguments)).withTag "param"
      (request ++ " $" ++ RuntimeNames.multiArgumentParameter)

def methodDoc (owner : ClassIdentity) (operation : Operation) (shape : ArgumentShape) :
    Draft NamingError DocBlock := do
  let doc ← operation.parameterDoc owner shape
  let result ← referTo owner .plain RuntimeNames.resultInterface
  let returned ← operation.result.documentedType owner
  let thrown ← referTo owner .plain RuntimeNames.soapException
  return (doc.withTag "return" (result ++ " & " ++ returned)).withTag "throws" thrown

/-- The statement that checks the class of the response. -/
def responseCheck (typeName : String) : String :=
  "\\Psl\\Type\\instance_of(" ++ absoluteName typeName ++ "::class)->assert($response);"

/-- The lines of the body of the method, given the expression it hands to the caller. -/
def bodyLines (operation : Operation) (argument : String) : List String := [
  "$response = ($this->caller)('" ++ operation.name ++ "', " ++ argument ++ ");",
  "",
  responseCheck operation.result.signatureType,
  responseCheck RuntimeNames.resultInterface,
  "",
  "return $response;"]

/-- The method of the client for an operation, under a name of its own. -/
def draftMethod (owner : ClassIdentity) (operation : Operation) (name : String) :
    Draft NamingError Unit := do
  Draft.ofExcept (operation.arguments.forM
    (fun argument => requireIdentifier .parameter argument.name))
  let shape := ArgumentShape.ofArguments operation.arguments
  let doc ← operation.methodDoc owner shape
  let argument ← shape.callArgument owner
  Draft.edit (.putMethod {
    name := name
    parameters := shape.parameters
    returnType := some operation.result.signatureType
    body := joinText "\n" (operation.bodyLines argument)
    doc := some doc })

end Operation

/-- The field that holds the caller of a client. -/
def callerName : String := "caller"

def constructorName : String := "__construct"

/-- Gives a client class its caller: a private field, and a constructor that fills it. -/
def draftConstructor (owner : ClassIdentity) : Draft AssemblyError Unit :=
  Draft.mapError
    (.generation "ClientConstructorAssembler" owner.qualifiedName constructorName) do
  let caller ← referTo owner .plain RuntimeNames.caller
  Draft.edit (.putField {
    name := callerName
    doc := some (DocBlock.empty.withTag "var" caller) })
  Draft.edit (.putMethod {
    name := constructorName
    parameters := [⟨callerName, some RuntimeNames.caller⟩]
    body := "$this->caller = $caller;" })

/-- Gives a client class the method for an operation. -/
def draftOperation (owner : ClassIdentity) (operation : Operation) : Draft AssemblyError Unit := do
  let name ← Draft.mapError
    (.generation "ClientMethodAssembler" owner.qualifiedName operation.name)
    (Draft.ofExcept (methodName operation.name))
  Draft.mapError (.generation "ClientMethodAssembler" owner.qualifiedName name)
    (operation.draftMethod owner name)

end SoapClasses
