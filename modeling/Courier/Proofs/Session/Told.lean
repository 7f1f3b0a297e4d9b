import Courier.Proofs.Cycle.Keeping
import Courier.Proofs.Session.Cycles

/-!
# What the user was told last

The message of a desk is the last of the status texts in its journal, whatever
happens in a cycle.

Key definition: `Desk.Tells`.
Key theorem: `Session.submit_tells`.
-/

namespace Courier

variable {τ : Type}

namespace Desk

/-- The message is the last status text that was shown. -/
def Tells (d : Desk τ) : Prop := d.message = d.journal.statuses.getLast?

/-- Only status texts count among what happens. -/
theorem Tells.happened {d : Desk τ} (h : d.Tells) {e : Event} (he : ∀ text, e ≠ .status text) :
    (d.happened e).Tells := by
  have hstatuses : (d.happened e).journal.statuses = d.journal.statuses := by
    unfold Desk.happened Journal.statuses
    rw [List.filterMap_append]
    cases e with
    | status text => exact absurd rfl (he text)
    | record | told | request => exact List.append_nil _
  rw [Tells, hstatuses]
  exact h

theorem announce_tells (text : Text) (d : Desk τ) : (announce text d).2.Tells := by
  have hstatuses : (announce text d).2.journal.statuses =
      (d.happened (Board.statusRecord text)).journal.statuses ++ [text] :=
    List.filterMap_append
  rw [Tells, hstatuses, List.getLast?_append]
  rfl

theorem send_tells {transport : Request → Act τ Response} {d : Desk τ} (h : d.Tells) (q : Request) :
    (send transport q d).2.Tells := h.happened fun _ => Event.noConfusion

theorem deliver_tells {target : Target} {d : Desk τ} (h : d.Tells) (body : Bytes) (name : Text) :
    (deliver target body name d).2.Tells := by
  unfold deliver
  split
  · exact h
  · exact Tells.happened (d := { d with depot := _ }) h fun _ => Event.noConfusion

end Desk

namespace Session

variable {session : Session} {transport : Request → Act τ Response}

theorem services_keeps_tells (session : Session) (transport : Request → Act τ Response) :
    (session.services transport).Keeps Desk.Tells where
  announce text d _ := Desk.announce_tells text d
  note _ _ _ h := h.happened fun _ => Event.noConfusion
  post payload d h := by
    rw [services_post]
    exact Client.post_onward (R := fun a b => Desk.Tells a → Desk.Tells b) (fun _ h => h)
      (fun hab hbc h => hbc (hab h)) (fun q _ h => Desk.send_tells h q)
      (fun _ _ _ h => h.happened fun _ => Event.noConfusion) h
  deliver body name _ h := Desk.deliver_tells h body name

/-- **After a cycle the message is the last status text that was shown.** -/
theorem submit_tells {d : Desk τ} (h : d.Tells) (form : Form) :
    (session.submit transport form d).2.Tells := by
  unfold submit
  split
  · exact Cycle.run_keeps (fun _ _ => rfl) (services_keeps_tells session transport) form h
  · exact h

end Session
end Courier
