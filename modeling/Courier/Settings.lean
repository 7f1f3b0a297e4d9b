import Courier.Fault
import Courier.Decimal.Reader
import Courier.Text.Table

/-!
# Settings

What a client needs to know: the generator's address, the endpoint, the name
for an archive without one, the output folder and the timeout. Three of them
can come from the environment; a variable that is empty counts as unset. What
the caller overrides wins.

Key definitions: `Settings`, `Overrides`, `Settings.fromEnvironment`.
-/

namespace Courier

/-- The process environment. -/
abbrev Environment := Table Text

/-- What a client needs to know. -/
structure Settings where
  baseUrl : Text
  endpoint : Text
  fallbackName : Text
  outputFolder : Path
  /-- Without a timeout a client waits for the server forever. -/
  timeout : Option Float
  deriving Repr

/-- What a caller sets in place of the environment and the defaults. -/
structure Overrides where
  baseUrl : Option Text
  endpoint : Option Text
  fallbackName : Option Text
  outputFolder : Option Path
  timeout : Option Float
  deriving Repr

/-- A caller that sets nothing. -/
def Overrides.none : Overrides := ⟨.none, .none, .none, .none, .none⟩

namespace Settings

/-- The settings of a client that nothing was said to. -/
def default : Settings where
  baseUrl := "http://localhost:8080".toList
  endpoint := "/api/generate/upload".toList
  fallbackName := "auto-crud.zip".toList
  outputFolder := Path.current
  timeout := none

/-- The variable with the generator's address. -/
def baseUrlVariable : Text := "CRUD_UPLOADER_API_URL".toList

/-- The variable with the output folder. -/
def outputFolderVariable : Text := "CRUD_UPLOADER_OUTPUT_DIR".toList

/-- The variable with the timeout. -/
def timeoutVariable : Text := "CRUD_UPLOADER_TIMEOUT".toList

/-- The text of a variable, unless it is unset or empty. -/
def filled? (env : Environment) (variable_ : Text) : Option Text :=
  match env.lookup variable_ with
  | some (c :: cs) => some (c :: cs)
  | _ => none

/-- The timeout in the environment; a text that is no number is a fault. -/
def environmentTimeout (env : Environment) : Except Fault (Option Float) :=
  match filled? env timeoutVariable with
  | none => .ok none
  | some raw =>
    match Decimal.readFloat? raw with
    | some x => .ok (some x)
    | none => .error (.badTimeout raw)

/-- The settings that the overrides, the environment and the defaults give, in
that order. The timeout of the environment is read even where it is overridden. -/
def fromEnvironment (env : Environment) (o : Overrides) : Except Fault Settings :=
  match environmentTimeout env with
  | .error f => .error f
  | .ok timeout =>
    .ok {
      baseUrl := (o.baseUrl.or (filled? env baseUrlVariable)).getD default.baseUrl
      endpoint := o.endpoint.getD default.endpoint
      fallbackName := o.fallbackName.getD default.fallbackName
      outputFolder :=
        (o.outputFolder.or ((filled? env outputFolderVariable).map Path.ofText)).getD
          default.outputFolder
      timeout := o.timeout.or timeout }

end Settings
end Courier
