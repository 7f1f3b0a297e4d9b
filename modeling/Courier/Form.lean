import Courier.Fault
import Courier.Form.MediaType
import Courier.Text.Table

/-!
# The form and the request it becomes

A form holds what the user picked: a schema file, a project name and perhaps a
file of overrides. It is fit to be sent when it has a schema file and the
project name is more than white space. The payload built from it names its
files first and then its values.

Key definitions: `Part`, `Form`, `Form.problem?`, `Payload`, `Form.payload`.
-/

namespace Courier

/-- A file that the user picked: its name, its bytes and their media type. -/
structure Part where
  name : Text
  content : Bytes
  mediaType : Text
  deriving DecidableEq, Repr

/-- What the user picked. -/
structure Form where
  schema : Option Part
  project : Option Text
  overrides : Option Part
  deriving DecidableEq, Repr

/-- A file of a request, and the field in which it is sent. -/
structure FileField where
  field : Text
  part : Part
  deriving DecidableEq, Repr

/-- What a request carries: files, and values by their fields. -/
structure Payload where
  files : List FileField
  data : Table Text
  deriving DecidableEq, Repr

/-- The fields of a payload in the order in which they are sent off. -/
def Payload.fieldNames (p : Payload) : List Text := p.files.map FileField.field ++ p.data.map (·.1)

/-- The field of the schema file. -/
def schemaField : Text := "sql".toList

/-- The field of the overrides. -/
def overridesField : Text := "overrides".toList

/-- The field of the project name. -/
def projectField : Text := "project-name".toList

namespace Form

/-- What a form lacks. -/
inductive Problem where
  | noSchema
  | noProject
  deriving DecidableEq, Repr

/-- The lack in words. -/
def Problem.message : Problem → Text
  | .noSchema => "Please select a SQL file.".toList
  | .noProject => "Please enter a project name.".toList

/-- The project name without the white space around it. -/
def trimmedProject (form : Form) : Text := Text.trim (form.project.getD [])

/-- The first thing that a form lacks, if it lacks any. -/
def problem? (form : Form) : Option Problem :=
  match form.schema with
  | none => some .noSchema
  | some _ => if form.trimmedProject = [] then some .noProject else none

/-- The payload of a form. Only a form without a schema file has none. -/
def payload (form : Form) : Except Fault Payload :=
  match form.schema with
  | none => .error .noSchema
  | some schema =>
    .ok {
      files := ⟨schemaField, schema⟩ :: (form.overrides.map (⟨overridesField, ·⟩)).toList
      data := [(projectField, form.trimmedProject)] }

end Form
end Courier
