import Courier.Http.Message

/-!
# Recorded answers

A run that sends requests can be told beforehand how they are answered. Where
the answers run out, the request that is still open is kept, and the run is
interrupted; it can be started anew with one answer more.

Key definitions: `Recording`, `Recording.play`.
-/

namespace Courier

/-- Answers to requests, in order, and the request for which none was left. -/
structure Recording where
  answers : List (Except Fault Response)
  pending : Option Request

namespace Recording

/-- A recording of some answers. -/
def ofAnswers (answers : List (Except Fault Response)) : Recording := ⟨answers, none⟩

/-- Answers a request by the next answer. -/
def play (r : Request) : Act Recording Response := fun w =>
  match w.answers with
  | answer :: rest => (answer, { w with answers := rest })
  | [] => (.error (.interrupted none), { w with pending := some r })

end Recording
end Courier
