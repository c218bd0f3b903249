import Mathlib.Data.List.Forall2
import Compliance.Command.Run
import Compliance.Proofs.Fix.Names
import Compliance.Proofs.Steps

/-!
# Sessions that were prepared

What is known once a session stands: all sections of its settings are valid, and from
then on a correction or a report fails only if the selection does not resolve.
-/

namespace Compliance

theorem Settings.gateConfig_of_validate {settings : Settings} {catalog : Catalog}
    (valid : settings.validate catalog = .ok ()) : ∃ gate, settings.gateConfig = .ok gate := by
  obtain ⟨_, -, rest⟩ := exists_of_bind_eq_ok valid
  obtain ⟨_, checked, -⟩ := exists_of_bind_eq_ok rest
  cases found : settings.gateConfig with
  | ok gate => exact ⟨gate, rfl⟩
  | error fault => rw [found] at checked; cases checked

namespace Corrector

variable {α : Type} [Scalar α] {corrector : Corrector α}

theorem resolve_of_correct {file : SourceFile} {correction : Correction}
    (ended : corrector.correct file = .ok correction) :
    ∃ plan, corrector.selection.resolve corrector.engine.catalog corrector.engine.sops =
      .ok plan := by
  obtain ⟨found, checked, -⟩ := exists_of_bind_eq_ok ended
  obtain ⟨plan, resolved, -⟩ := violations_eq_ok_iff.mp checked
  exact ⟨plan, resolved⟩

theorem forall₂_of_correctAll {files : List SourceFile} {corrections : List Correction}
    (ended : corrector.correctAll files = .ok corrections) :
    List.Forall₂ (fun file correction => corrector.correct file = .ok correction) files
      corrections := by
  induction files generalizing corrections with
  | nil =>
      obtain rfl := Except.ok.inj ended
      exact .nil
  | cons file files ih =>
      rw [correctAll, List.mapM_cons] at ended
      obtain ⟨correction, first, rest⟩ := exists_of_bind_eq_ok ended
      obtain ⟨others, later, same⟩ := exists_of_bind_eq_ok rest
      obtain rfl := Except.ok.inj same
      exact .cons first (ih later)

end Corrector

namespace Command

def CheckArguments.profiled (arguments : CheckArguments) (settings : Settings) : Settings :=
  { settings with
    gating := { settings.gating with profile := arguments.profile.getD settings.gating.profile } }

namespace Session

variable {session : Session} {settings : Settings} {arguments : CheckArguments}

structure Prepared (settings : Settings) (arguments : CheckArguments)
    (session : Session) : Prop where
  settings_eq : session.settings = arguments.profiled settings
  valid : (arguments.profiled settings).validate .standard = .ok ()
  engine_eq : (arguments.profiled settings).engine .standard = .ok session.engine
  loader_eq : (arguments.profiled settings).loader = .ok session.loader
  selection_eq : session.selection = chosen (arguments.profiled settings) arguments.selection

theorem prepared_of_prepare (ended : prepare settings arguments = .ok session) :
    session.Prepared settings arguments := by
  obtain ⟨⟨⟩, valid, rest⟩ := exists_of_bind_eq_ok ended
  obtain ⟨engine, isEngine, rest⟩ := exists_of_bind_eq_ok rest
  obtain ⟨loader, isLoader, same⟩ := exists_of_bind_eq_ok rest
  obtain rfl := Except.ok.inj same
  exact ⟨rfl, mapError_eq_ok valid, mapError_eq_ok isEngine, mapError_eq_ok isLoader, rfl⟩

theorem Prepared.report_of_resolve (prepared : session.Prepared settings arguments) {plan : Plan}
    (resolved : session.selection.resolve session.engine.catalog session.engine.sops = .ok plan)
    (timestamp : String) (files : List SourceFile) (diagnostics : List Diagnostic)
    (corrections : List Correction) :
    ∃ report, session.report timestamp files diagnostics corrections = .ok report := by
  obtain ⟨gate, isGate⟩ := Settings.gateConfig_of_validate prepared.valid
  have run : session.engine.run session.selection files =
      .ok (session.engine.runPlan plan files) := by
    rw [Engine.run, resolved]
    rfl
  rw [report, run, prepared.settings_eq, isGate]
  exact ⟨_, rfl⟩

theorem Prepared.report_of_correctAll (prepared : session.Prepared settings arguments)
    {files : List SourceFile} {corrections : List Correction}
    (ended : session.corrector.correctAll files = .ok corrections) (some : corrections ≠ [])
    (timestamp : String) (others : List SourceFile) (diagnostics : List Diagnostic) :
    ∃ report, session.report timestamp others diagnostics corrections = .ok report := by
  cases Corrector.forall₂_of_correctAll ended with
  | nil => exact absurd rfl some
  | cons first rest =>
      obtain ⟨plan, resolved⟩ := Corrector.resolve_of_correct first
      exact prepared.report_of_resolve resolved timestamp others diagnostics _

end Session

end Command

end Compliance
