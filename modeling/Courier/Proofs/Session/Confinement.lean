import Courier.Proofs.Http.Naming
import Courier.Proofs.Session.Runs

/-!
# What a server can have written, and where

The server decides the bytes of an archive and has a say in its name. Whatever
it sends, the archive lands in the output folder itself, under a safe name that
is made in one way from what the server calls the archive.

Key definition: `Session.Names`.
Key theorems: `Target.Delivers.confined`, `Session.cycle_confined`.
-/

namespace Courier

namespace Target

variable {target : Target} {body : Bytes} {fileName : Text} {p : Path} {d d' : Depot}

/-- The archive of a safe name is wanted in the output folder. -/
theorem wanted_of_isSafe (h : Archive.IsSafe (Archive.safeName fileName target.fallback)) :
    target.wanted fileName =
      target.folder.join ⟨0, [Archive.safeName fileName target.fallback]⟩ := by
  rw [wanted, h.ofText]

/-- **What is delivered stays in the output folder,** and nothing else but folders on the
way to it is new. -/
theorem Delivers.confined (h : target.Delivers body fileName p d d')
    (hsafe : Archive.IsSafe target.fallback) :
    p.parent = target.folder ∧ Archive.IsSafe p.name ∧
      (∃ k, Archive.candidate
        (target.folder.join ⟨0, [Archive.safeName fileName target.fallback]⟩) k = .ok p) ∧
      ∃ inside, d'.tree.route target.folder = .ok inside ∧
        Tree.Grows
          (fun s e => s = p.name :: inside ∨ e = .folder ∧ d'.tree.OnTheWay target.folder s)
          d.tree d'.tree := by
  have hname := Archive.safeName_isSafe fileName hsafe
  obtain ⟨k, hk⟩ := h.candidate
  rw [wanted_of_isSafe hname] at hk
  have hparent : p.parent = target.folder := by
    rw [Archive.candidate_parent hk, Path.parent_join_name]
  have hp : Archive.IsSafe p.name :=
    Archive.candidate_isSafe (by rwa [Path.name_join_name]) hk
  have hparts : p.parts ≠ [] := by
    intro hnil
    exact hp.ne_nil (by rw [Path.name, hnil]; rfl)
  obtain ⟨-, inside, hinside, -⟩ := Tree.isFolder?_eq_true.mp h.folder
  obtain ⟨r, hr, -, hgrows, -⟩ := h.grows
  obtain rfl := Tree.route_in_folder hparts hp.ne_up (hparent ▸ hinside) hr
  exact ⟨hparent, hp, ⟨k, hk⟩, inside, hinside, hgrows⟩

end Target

namespace Session

variable {τ : Type} {session : Session}

/-- The name under which an archive is wanted: what the response calls it gives the name,
and the fallback is the name of an archive that the response does not name. -/
def Names (r : Response) (fallback name : Text) : Prop :=
  r.Calls none ∧ name = fallback ∨
    ∃ fileName, r.Calls (some fileName) ∧ Archive.Gives fileName fallback name

theorem names_safeName {r : Response} {fallback : Text} (hsafe : Archive.IsSafe fallback)
    {called : Option Text} (h : fileNameOf (r.headers.get? dispositionField) = .ok called) :
    Names r fallback (Archive.safeName (called.getD fallback) fallback) := by
  have hcalls := Response.calls_of_fileNameOf h
  cases called with
  | none => exact Or.inl ⟨hcalls, Archive.safeName_of_isSafe hsafe fallback⟩
  | some fileName => exact Or.inr ⟨fileName, hcalls, Archive.safeName_gives fileName fallback⟩

/-- **No server can write outside the output folder.** A cycle that saves an archive adds
one file to the output folder and nothing else but folders on the way to it. The file has
a safe name, and it is a candidate of the name that the response gives. A cycle that does
not save adds such folders alone. -/
theorem cycle_confined {homeOf : Text → Option Text} {boundary outputFolder : Text}
    {codecs : Codecs} {settings : Settings}
    (hsession : Session.ofSettings homeOf boundary codecs
      { settings with outputFolder := .ofText outputFolder } = .ok session)
    (hsafe : Archive.IsSafe settings.fallbackName) (transport : Request → Act τ Response)
    (form : Form) {d : Desk (τ × List Response)} (hopened : d.opened = true) :
    ∃ d', (session.submit (remembering transport) form d).2 = d' ∧
      (session.submit transport form d.forget).2 = d'.forget ∧
      ((∃ r p name k inside, Turn.lastResponse? ⟨form, d, d'⟩ = some r ∧ r.isSuccess = true ∧
          d'.depot.lastSaved = some p ∧ p.parent = session.target.folder ∧
          Archive.IsSafe p.name ∧ Names r settings.fallbackName name ∧
          Archive.candidate (session.target.folder.join ⟨0, [name]⟩) k = .ok p ∧
          d'.depot.tree.route session.target.folder = .ok inside ∧
          Tree.Grows
            (fun s e => s = p.name :: inside ∨
              e = .folder ∧ d'.depot.tree.OnTheWay session.target.folder s)
            d.depot.tree d'.depot.tree) ∨
        d'.message ≠ some Status.downloadStarted ∧
          Tree.GrowsTowards session.target.folder d.depot.tree d'.depot.tree) := by
  obtain ⟨-, hfallback, hname⟩ := ofSettings_eq_ok hsession
  obtain ⟨d', hd', -, -, hcases⟩ :=
    submit_cases (ofSettings_proper hsession) hopened transport form
  have hforget : (session.submit transport form d.forget).2 = d'.forget := by
    rw [submit_forget, ← hd']
    rfl
  refine ⟨d', hd', hforget, ?_⟩
  rcases hcases with ⟨p, r, body, hsaves⟩ | hpasses
  · left
    obtain ⟨route, hkept⟩ := hsaves.kept form
    obtain ⟨called, hcalled, hdelivers⟩ := hsaves.delivers
    obtain ⟨hparent, hp, ⟨k, hk⟩, inside, hinside, hgrows⟩ :=
      hdelivers.confined (hfallback ▸ hsafe)
    refine ⟨r, p, _, k, inside, hkept.response, hsaves.success, hkept.lastSaved, hparent, hp, ?_, hk,
      hinside, hgrows⟩
    rw [hname, hfallback]
    exact names_safeName hsafe hcalled
  · exact Or.inr ⟨hpasses.message, hpasses.declines.grows⟩

/-- A name that leads upwards, its separators percent-encoded. -/
def hostile : List (Except Fault Response) :=
  [.ok (zipResponse "attachment; filename*=UTF-8''..%2F..%5Cevil.zip%20".toList [1])]

/-- A name that leads upwards leads into the output folder. -/
theorem hostile_confined :
    Session.ofSettings (fun _ => none) "b".toList .none
      { Settings.default with outputFolder := .ofText "out".toList } = .ok outSession ∧
    Archive.IsSafe Settings.default.fallbackName ∧ (outDesk hostile).opened = true ∧
    ∃ p, (outSession.submit (remembering scripted) .shop (outDesk hostile)).2.depot.lastSaved =
      some p ∧ p.parent = ⟨0, ["out".toList]⟩ ∧ Archive.IsSafe p.name := by
  have hsession : Session.ofSettings (fun _ => none) "b".toList .none
      { Settings.default with outputFolder := .ofText "out".toList } = .ok outSession := rfl
  have hsafe : Archive.IsSafe Settings.default.fallbackName := by
    refine ⟨by decide, by decide, ⟨fun c hc => ?_, fun c hc => ?_⟩, by decide, by decide, by decide⟩
    · rw [← Option.some.inj hc]
      decide
    · rw [← Option.some.inj hc]
      decide
  have hopened : (outDesk hostile).opened = true := rfl
  have hmessage : (outSession.submit (remembering scripted) .shop (outDesk hostile)).2.message =
      some Status.downloadStarted := by decide +kernel
  refine ⟨hsession, hsafe, hopened, ?_⟩
  obtain ⟨d', rfl, -, ⟨r, p, name, k, inside, -, -, hlast, hparent, hp, -⟩ | ⟨hnot, -⟩⟩ :=
    cycle_confined hsession hsafe scripted .shop hopened
  · exact ⟨p, hlast, hparent, hp⟩
  · exact absurd hmessage hnot

end Session
end Courier
