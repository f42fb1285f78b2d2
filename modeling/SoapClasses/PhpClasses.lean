import SoapClasses.ClassMembers
import SoapClasses.ImportTables

/-!
# Classes under construction

A class has a name, a namespace and what has been put into it so far: imports, interfaces, fields,
methods and a doc block. It changes by edits only. An edit that brings a name that is no identifier
is refused and changes nothing.
-/

namespace SoapClasses

/-- The name of a class and its namespace, which is empty for the global namespace. -/
structure ClassIdentity where
  name : String
  ns : String
  deriving DecidableEq, Repr

def ClassIdentity.qualifiedName (identity : ClassIdentity) : String :=
  qualify identity.ns identity.name

/-- A class under construction. -/
structure PhpClass extends ClassIdentity where
  imports : ImportTable
  interfaces : MemberTable String
  fields : MemberTable Field
  methods : MemberTable Method
  doc : Option DocBlock
  deriving DecidableEq

/-- A change of a class. -/
inductive ClassEdit where
  | addImport (name : String) (aliasName : Option String)
  | addInterface (name : String)
  | putField (field : Field)
  | removeField (name : String)
  | putMethod (method : Method)
  | removeMethod (name : String)
  | setDoc (doc : DocBlock)
  deriving DecidableEq, Repr

/-- Refuses an edit that brings a name that is no identifier. -/
def ClassEdit.check : ClassEdit → Except NamingError Unit
  | .putField field => field.check
  | .putMethod method => method.check
  | _ => .ok ()

namespace PhpClass

/-- The empty class of a name in a namespace. -/
def fresh (name ns : String) : PhpClass where
  name := name
  ns := trimSeparators ns
  imports := .empty
  interfaces := .empty
  fields := .empty
  methods := .empty
  doc := none

/-- The class after an edit that has been checked. -/
def amend (php : PhpClass) : ClassEdit → PhpClass
  | .addImport name aliasName => { php with imports := php.imports.insert name aliasName }
  | .addInterface name =>
    { php with interfaces := php.interfaces.put (dropLeadingSeparators name) }
  | .putField field => { php with fields := php.fields.put field }
  | .removeField name => { php with fields := php.fields.erase name }
  | .putMethod method => { php with methods := php.methods.put method }
  | .removeMethod name => { php with methods := php.methods.erase name }
  | .setDoc doc => { php with doc := some doc }

/-- The class after an edit, or the reason why the edit is refused. -/
def edit (php : PhpClass) (change : ClassEdit) : Except NamingError PhpClass :=
  change.check.map (fun _ => php.amend change)

def amendAll (php : PhpClass) (changes : List ClassEdit) : PhpClass :=
  changes.foldl amend php

theorem toClassIdentity_amend (php : PhpClass) (change : ClassEdit) :
    (php.amend change).toClassIdentity = php.toClassIdentity := by
  cases change <;> rfl

end PhpClass

end SoapClasses
