import Mathlib.Data.List.Forall2
import Compliance.Proofs.Text.Utf8
import Compliance.Source.Loader

/-!
# Buffers and what is loaded of them

A buffer is a file if it is the encoding of a text, and a failure that names it if it is none.
So files and failures are the buffers, each once and each kind in its order, and a buffer that
is no text has no influence on the files.
-/

namespace Compliance

def IsEncoded (bytes : Bytes) : Prop := ∃ text, encodeUtf8 text = bytes

theorem decodeUtf8_isSome_iff {bytes : Bytes} :
    (decodeUtf8 bytes).toOption.isSome = true ↔ IsEncoded bytes := by
  cases read : decodeUtf8 bytes with
  | ok text => exact iff_of_true rfl ⟨text, decodeUtf8_eq_ok_iff.mp read⟩
  | error fault =>
      refine iff_of_false Bool.false_ne_true ?_
      rintro ⟨text, encoded⟩
      rw [decodeUtf8_eq_ok_iff.mpr encoded] at read
      cases read

instance : DecidablePred IsEncoded := fun _ => decidable_of_iff _ decodeUtf8_isSome_iff

/-- Each buffer gives one file or one failure, in the order of the buffers. -/
inductive LoadedAs : List (String × Bytes) → List SourceFile → List Diagnostic → Prop
  | nil : LoadedAs [] [] []
  | file {buffers : List (String × Bytes)} {files : List SourceFile}
      {diagnostics : List Diagnostic} (name : String) (text : Text)
      (rest : LoadedAs buffers files diagnostics) :
      LoadedAs ((name, encodeUtf8 text) :: buffers) (⟨name, text⟩ :: files) diagnostics
  | failure {buffers : List (String × Bytes)} {files : List SourceFile}
      {diagnostics : List Diagnostic} (name : String) {bytes : Bytes} (message : String)
      (broken : ¬ IsEncoded bytes) (rest : LoadedAs buffers files diagnostics) :
      LoadedAs ((name, bytes) :: buffers) files (.loadFailure name message :: diagnostics)

/-- The first buffers, with buffers that are no text put between them. -/
inductive Interspersed : List (String × Bytes) → List (String × Bytes) → Prop
  | nil : Interspersed [] []
  | kept {buffers extended : List (String × Bytes)} (buffer : String × Bytes)
      (rest : Interspersed buffers extended) : Interspersed (buffer :: buffers) (buffer :: extended)
  | inserted {buffers extended : List (String × Bytes)} (buffer : String × Bytes)
      (broken : ¬ IsEncoded buffer.2) (rest : Interspersed buffers extended) :
      Interspersed buffers (buffer :: extended)

theorem loadBytes_cons_text (name : String) (text : Text) (buffers : List (String × Bytes)) :
    loadBytes ((name, encodeUtf8 text) :: buffers) =
      { loadBytes buffers with files := ⟨name, text⟩ :: (loadBytes buffers).files } := by
  have opened : loadBuffer name (encodeUtf8 text) = .ok ⟨name, text⟩ := by
    rw [loadBuffer, decodeUtf8_encodeUtf8]
  simp only [loadBytes, List.map_cons, opened]
  rfl

theorem loadBytes_cons_broken {bytes : Bytes} (broken : ¬ IsEncoded bytes) (name : String)
    (buffers : List (String × Bytes)) :
    ∃ message, loadBytes ((name, bytes) :: buffers) =
      { loadBytes buffers with
        diagnostics := .loadFailure name message :: (loadBytes buffers).diagnostics } := by
  cases read : decodeUtf8 bytes with
  | ok text => exact absurd ⟨text, decodeUtf8_eq_ok_iff.mp read⟩ broken
  | error fault =>
      have refused : loadBuffer name bytes =
          .error (.loadFailure name ("not valid UTF-8: " ++ fault.message)) := by
        rw [loadBuffer, read]
      refine ⟨"not valid UTF-8: " ++ fault.message, ?_⟩
      simp only [loadBytes, List.map_cons, refused]
      rfl

theorem loadedAs_loadBytes (buffers : List (String × Bytes)) :
    LoadedAs buffers (loadBytes buffers).files (loadBytes buffers).diagnostics := by
  induction buffers with
  | nil => exact .nil
  | cons buffer buffers ih =>
      obtain ⟨name, bytes⟩ := buffer
      by_cases encoded : IsEncoded bytes
      · obtain ⟨text, rfl⟩ := encoded
        rw [loadBytes_cons_text]
        exact .file name text ih
      · obtain ⟨message, loaded⟩ := loadBytes_cons_broken encoded name buffers
        rw [loaded]
        exact .failure name message encoded ih

theorem files_append (first second : List (String × Bytes)) :
    (loadBytes (first ++ second)).files = (loadBytes first).files ++ (loadBytes second).files := by
  simp only [loadBytes, LoadedSources.ofAttempts, List.map_append, List.filterMap_append]

theorem Interspersed.files_eq {buffers extended : List (String × Bytes)}
    (interspersed : Interspersed buffers extended) :
    (loadBytes extended).files = (loadBytes buffers).files := by
  induction interspersed with
  | nil => rfl
  | @kept buffers extended buffer rest ih =>
      have split (others : List (String × Bytes)) :
          (loadBytes (buffer :: others)).files =
            (loadBytes [buffer]).files ++ (loadBytes others).files := files_append [buffer] others
      rw [split buffers, split extended, ih]
  | inserted buffer broken rest ih =>
      obtain ⟨message, loaded⟩ := loadBytes_cons_broken broken buffer.1 _
      rw [loaded]
      exact ih

namespace LoadedAs

variable {buffers : List (String × Bytes)} {files : List SourceFile} {diagnostics : List Diagnostic}

theorem length_eq (loaded : LoadedAs buffers files diagnostics) :
    files.length + diagnostics.length = buffers.length := by
  induction loaded with
  | nil => rfl
  | file name text rest ih =>
      simp only [List.length_cons]
      omega
  | failure name message broken rest ih =>
      simp only [List.length_cons]
      omega

theorem map_files (loaded : LoadedAs buffers files diagnostics) :
    files.map (fun file => (file.name, encodeUtf8 file.content)) =
      buffers.filter fun buffer => IsEncoded buffer.2 := by
  induction loaded with
  | nil => rfl
  | file name text rest ih =>
      have encoded : IsEncoded (encodeUtf8 text) := ⟨text, rfl⟩
      simp [encoded, ih]
  | failure name message broken rest ih => simp [broken, ih]

theorem forall₂_diagnostics (loaded : LoadedAs buffers files diagnostics) :
    List.Forall₂ (fun buffer diagnostic => ∃ message, diagnostic = .loadFailure buffer.1 message)
      (buffers.filter fun buffer => ¬ IsEncoded buffer.2) diagnostics := by
  induction loaded with
  | nil => exact .nil
  | file name text rest ih =>
      have encoded : IsEncoded (encodeUtf8 text) := ⟨text, rfl⟩
      simpa [encoded] using ih
  | failure name message broken rest ih => simpa [broken] using ih

end LoadedAs

/-- Loading divides the buffers: those that encode a text are the files, the others are named by
failures, and nothing is lost, added or moved.  Every text comes back from its encoding, and
buffers that are no text may stand anywhere. -/
theorem loadBytes_divides (buffers : List (String × Bytes)) :
    let loaded := loadBytes buffers
    loaded.files.map (fun file => (file.name, encodeUtf8 file.content)) =
        buffers.filter (fun buffer => IsEncoded buffer.2) ∧
      List.Forall₂ (fun buffer diagnostic => ∃ message, diagnostic = .loadFailure buffer.1 message)
        (buffers.filter fun buffer => ¬ IsEncoded buffer.2) loaded.diagnostics ∧
      LoadedAs buffers loaded.files loaded.diagnostics ∧
      loaded.files.length + loaded.diagnostics.length = buffers.length ∧
      (∀ before name text after, buffers = before ++ (name, encodeUtf8 text) :: after →
        loaded.files = (loadBytes before).files ++ ⟨name, text⟩ :: (loadBytes after).files) ∧
      ∀ extended, Interspersed buffers extended → (loadBytes extended).files = loaded.files := by
  intro loaded
  have all : LoadedAs buffers loaded.files loaded.diagnostics := loadedAs_loadBytes buffers
  refine ⟨all.map_files, all.forall₂_diagnostics, all, all.length_eq, ?_, ?_⟩
  · rintro before name text after rfl
    rw [files_append, loadBytes_cons_text]
  · intro extended interspersed
    exact interspersed.files_eq

theorem loadBytes_divides_strayBytes :
    let source : String × Bytes := ("a.ts", encodeUtf8 "const a = 1;".toList)
    let extended := [("b.ts", [0xFF, 0xFE, 0x00]), source, ("c.ts", [0xED, 0xA0, 0x80])]
    Interspersed [source] extended ∧
      (loadBytes extended).files = [⟨"a.ts", "const a = 1;".toList⟩] := by
  intro source extended
  have stray : ¬ IsEncoded [0xFF, 0xFE, 0x00] := by decide
  have surrogate : ¬ IsEncoded [0xED, 0xA0, 0x80] := by decide
  have interspersed : Interspersed [source] extended :=
    .inserted _ stray (.kept source (.inserted _ surrogate .nil))
  obtain ⟨-, -, -, -, texts, others⟩ := loadBytes_divides [source]
  exact ⟨interspersed, (others extended interspersed).trans (texts [] "a.ts" _ [] rfl)⟩

end Compliance
