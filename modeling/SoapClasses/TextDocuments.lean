import SoapClasses.JsonText
import SoapClasses.MetadataRecords
import SoapClasses.ProjectRecords

/-!
# Documents in JSON text

A document is decoded while its text is read, so an error in the data comes before an error in the
text behind it. No text at all is the document with nothing in it.
-/

namespace SoapClasses

open JsonText

/-- The document in a text that decodes at its root; behind it only blanks may stand. -/
def decodeJson {α : Type} (decode : JsonTree → Decoded α) (absent : α) (bytes : Bytes) :
    Decoded α :=
  if bytes.isEmpty then .ok absent
  else do
    let reading := JsonText.read bytes
    let document ← decode reading.value
    if reading.isComplete then .ok document else .error .malformed

def ServiceDocument.parse (bytes : Bytes) : Decoded ServiceDocument :=
  decodeJson ServiceDocument.decode {} bytes

def GeneratorSettings.parse (bytes : Bytes) : Decoded GeneratorSettings :=
  decodeJson GeneratorSettings.decode {} bytes

/-- The wording of an error in a service description. -/
def serializationMessage (error : DecodingError) : String :=
  "serialization error: " ++ error.message

end SoapClasses
