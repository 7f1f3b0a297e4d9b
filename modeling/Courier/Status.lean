import Courier.Form

/-!
# Status texts

What the user is told while a form is on its way. Three texts say that work is
going on, one that it is done; a failure is told with what the server or the
fault says.

Key definitions: `Status.serverError`, `Status.error`, `Status.Style`, `Status.style`.
-/

namespace Courier.Status

/-- The form is being looked at. -/
def preparing : Text := "Preparing...".toList

/-- The request is on its way. -/
def uploading : Text := "Uploading...".toList

/-- The server has accepted the request, and the archive is being received. -/
def generating : Text := "Generating ZIP...".toList

/-- The archive is saved. -/
def downloadStarted : Text := "Download started".toList

/-- The server has refused the request. -/
def serverError (status : Int) (detail : Text) : Text :=
  "Server error: ".toList ++ Text.ofInt status ++ " - ".toList ++ detail

/-- Something else went wrong. -/
def error (detail : Text) : Text := "Error: ".toList ++ detail

/-- The looks of a status text. -/
inductive Style where
  | cyan
  | boldGreen
  | boldRed
  | yellow
  deriving DecidableEq, Repr

/-- The name of a style. -/
def Style.name : Style → Text
  | .cyan => "cyan".toList
  | .boldGreen => "bold green".toList
  | .boldRed => "bold red".toList
  | .yellow => "yellow".toList

/-- The style in which a status text is shown: work going on, success, failure,
and whatever else the user is told. -/
def style (text : Text) : Style :=
  if text = preparing || text = uploading || text = generating then .cyan
  else if text = downloadStarted then .boldGreen
  else if text.startsWith "Server error:".toList || text.startsWith "Error:".toList then .boldRed
  else .yellow

end Courier.Status
