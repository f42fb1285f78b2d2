import SoapClasses.GenerationContexts
import SoapClasses.NamingErrors

/-!
# Why a generation step fails
-/

namespace SoapClasses

/-- The failure of a generation step. -/
inductive AssemblyError where
  /-- The step was given a context of a kind that it does not work on. -/
  | contextMismatch (assembler expected : String) (actual : ContextKind)
  /-- A member could not be built. -/
  | generation (assembler className member : String) (cause : NamingError)
  deriving DecidableEq, Repr

namespace AssemblyError

def message : AssemblyError → String
  | .contextMismatch assembler expected actual =>
    assembler ++ " expects a " ++ expected ++ " as input, " ++ actual.text ++ " given"
  | .generation assembler className member cause =>
    assembler ++ " failed to generate '" ++ member ++ "' on class '" ++ className ++ "': "
      ++ cause.message

/-- The wording of the error and of its cause. -/
def messages : AssemblyError → List String
  | .contextMismatch assembler expected actual =>
    [message (.contextMismatch assembler expected actual)]
  | .generation assembler className member cause =>
    [message (.generation assembler className member cause), cause.message]

/-- A stable number for the kind of the error. -/
def code : AssemblyError → Nat
  | .contextMismatch .. => 1
  | .generation .. => 2

end AssemblyError

end SoapClasses
