import SoapClasses.PhpClasses

/-!
# Drafts of edits

A step of the generator does not change a class itself. It drafts the edits to make, in order, and
ends with a value or an error; the edits drafted before an error stand. So what a step does to a class
is known without the class.
-/

namespace SoapClasses

/-- Edits to make, and how the draft ended. -/
structure Draft (ε α : Type) where
  edits : List ClassEdit
  outcome : Except ε α

namespace Draft

variable {ε ε' α β : Type}

def done (value : α) : Draft ε α :=
  ⟨[], .ok value⟩

def fail (error : ε) : Draft ε α :=
  ⟨[], .error error⟩

def andThen (first : Draft ε α) (next : α → Draft ε β) : Draft ε β :=
  match first.outcome with
  | .ok value => ⟨first.edits ++ (next value).edits, (next value).outcome⟩
  | .error error => ⟨first.edits, .error error⟩

instance : Monad (Draft ε) where
  pure := done
  bind := andThen

/-- The draft of a computation that makes no edits. -/
def ofExcept (outcome : Except ε α) : Draft ε α :=
  ⟨[], outcome⟩

def mapError (wrap : ε → ε') (draft : Draft ε α) : Draft ε' α :=
  ⟨draft.edits, draft.outcome.mapError wrap⟩

def tell (changes : List ClassEdit) : Draft ε Unit :=
  ⟨changes, .ok ()⟩

/-- The draft of one edit, which fails when the edit is refused. -/
def edit (change : ClassEdit) : Draft NamingError Unit :=
  match change.check with
  | .ok _ => ⟨[change], .ok ()⟩
  | .error error => fail error

def applyTo (draft : Draft ε α) (php : PhpClass) : PhpClass :=
  php.amendAll draft.edits

end Draft

end SoapClasses
