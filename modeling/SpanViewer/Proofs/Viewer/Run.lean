import Mathlib.Data.List.Induction
import SpanViewer.Proofs.Viewer.Operation

/-!
# Runs of operations

What a viewer shows after a run is what the last text loaded in it says, unless the display was
cleared behind that load. Prompt sessions and sessions of a server are runs: one operation for each
line that is typed, or for each reading of the input.
-/

namespace SpanViewer

namespace Viewer

/-- The viewer after operations, one behind the other. -/
def run (v : Viewer) (operations : List Operation) : Viewer :=
  operations.foldl after v

@[simp] theorem run_nil (v : Viewer) : v.run [] = v := rfl

@[simp] theorem run_cons (v : Viewer) (operation : Operation) (operations : List Operation) :
    v.run (operation :: operations) = (v.after operation).run operations := rfl

@[simp] theorem run_append (v : Viewer) (operations others : List Operation) :
    v.run (operations ++ others) = (v.run operations).run others :=
  List.foldl_append

/-- Operations that neither load nor clear leave a viewer as it is. -/
theorem run_of_keeps (v : Viewer) {operations : List Operation}
    (hkeeps : ∀ operation ∈ operations, operation.Keeps) : v.run operations = v := by
  induction operations with
  | nil => rfl
  | cons operation operations ih =>
    rw [run_cons, after_of_keeps v (hkeeps operation List.mem_cons_self)]
    exact ih fun other hother => hkeeps other (List.mem_cons_of_mem operation hother)

/-- An operation loads, clears or does neither. -/
theorem after_cases (v : Viewer) (operation : Operation) :
    (∃ text path, operation.Loads text path ∧ v.after operation = v.showing text path) ∨
      (operation.Clears ∧ v.after operation = v.clear) ∨
      (operation.Keeps ∧ v.after operation = v) := by
  by_cases hload : ∃ text path, operation.Loads text path
  · obtain ⟨text, path, hload⟩ := hload
    exact Or.inl ⟨text, path, hload, after_of_loads v hload⟩
  by_cases hclear : operation.Clears
  · exact Or.inr (Or.inl ⟨hclear, after_of_clears v hclear⟩)
  · have hkeeps : operation.Keeps :=
      ⟨fun text path hloads => hload ⟨text, path, hloads⟩, hclear⟩
    exact Or.inr (Or.inr ⟨hkeeps, after_of_keeps v hkeeps⟩)

/-- No operation touches the settings. -/
@[simp] theorem settings_after (v : Viewer) (operation : Operation) :
    (v.after operation).settings = v.settings := by
  obtain ⟨text, path, -, hafter⟩ | ⟨-, hafter⟩ | ⟨-, hafter⟩ := v.after_cases operation <;>
    rw [hafter] <;> rfl

/-- No run touches the settings. -/
@[simp] theorem settings_run (v : Viewer) (operations : List Operation) :
    (v.run operations).settings = v.settings := by
  induction operations generalizing v with
  | nil => rfl
  | cons operation operations ih => rw [run_cons, ih, settings_after]

end Viewer

namespace Operation

/-- The last text that is loaded, and nothing is cleared behind it. -/
def Leave (operations : List Operation) (text : Text) (path : Option Text) : Prop :=
  ∃ before operation later, operations = before ++ operation :: later ∧
    operation.Loads text path ∧ ∀ other ∈ later, other.Keeps

/-- The last operation leaves what it loads, or it keeps what the operations before it leave. -/
theorem leave_append_singleton_iff {operations : List Operation} {operation : Operation}
    {text : Text} {path : Option Text} :
    Leave (operations ++ [operation]) text path ↔
      operation.Loads text path ∨ (Leave operations text path ∧ operation.Keeps) := by
  constructor
  · rintro ⟨before, load, later, hoperations, hload, hlater⟩
    cases later using List.reverseRecOn with
    | nil =>
      obtain ⟨-, hlast⟩ := List.append_inj' hoperations rfl
      exact Or.inl (List.singleton_inj.mp hlast ▸ hload)
    | append_singleton later last _ =>
      rw [← List.cons_append, ← List.append_assoc] at hoperations
      obtain ⟨hbefore, hlast⟩ := List.append_inj' hoperations rfl
      rw [List.singleton_inj.mp hlast]
      refine Or.inr ⟨⟨before, load, later, hbefore, hload, fun other hother => ?_⟩, ?_⟩
      · exact hlater other (List.mem_append_left _ hother)
      · exact hlater last (List.mem_append_right _ List.mem_cons_self)
  · rintro (hload | ⟨⟨before, load, later, rfl, hload, hlater⟩, hkeeps⟩)
    · exact ⟨operations, operation, [], rfl, hload, by simp⟩
    · refine ⟨before, load, later ++ [operation], by simp, hload, fun other hother => ?_⟩
      rcases List.mem_append.mp hother with hother | hother
      · exact hlater other hother
      · rwa [List.mem_singleton.mp hother]

end Operation

namespace Viewer

/-- A viewer that is not loaded shows an empty document and no file. -/
theorem document_of_not_isLoaded {v : Viewer} (hloaded : v.isLoaded = false) :
    v.document = {} ∧ v.path = none := by
  have hdisplay : v.display = none := by simpa [isLoaded] using hloaded
  rw [document, path, hdisplay]
  exact ⟨rfl, rfl⟩

/-- What operations leave is on display after them. -/
theorem run_of_leave (v : Viewer) {operations : List Operation} {text : Text} {path : Option Text}
    (hleave : Operation.Leave operations text path) :
    v.run operations = v.showing text path := by
  obtain ⟨before, operation, later, rfl, hload, hlater⟩ := hleave
  rw [run_append, run_cons, run_of_keeps _ hlater, after_of_loads _ hload, showing, showing,
    settings_run]

/-- Where operations leave nothing, a viewer that showed nothing shows nothing. -/
theorem run_of_not_leave {v : Viewer} (hempty : v.clear = v) {operations : List Operation}
    (hnone : ∀ text path, ¬ Operation.Leave operations text path) : v.run operations = v := by
  -- The last operation decides, or else those before it do.
  induction operations using List.reverseRecOn with
  | nil => rfl
  | append_singleton operations operation ih =>
    rw [run_append, run_cons, run_nil]
    obtain ⟨text, path, hload, -⟩ | ⟨-, hafter⟩ | ⟨hkeeps, hafter⟩ :=
      (v.run operations).after_cases operation
    · exact absurd (Operation.leave_append_singleton_iff.mpr (Or.inl hload)) (hnone text path)
    · rw [hafter, clear, settings_run]
      exact hempty
    · rw [hafter]
      exact ih fun text path hleave =>
        hnone text path (Operation.leave_append_singleton_iff.mpr (Or.inr ⟨hleave, hkeeps⟩))

/-- A viewer that showed nothing shows no other document than an empty one or one that was read. -/
theorem document_run (settings : Settings) (operations : List Operation) :
    (run ⟨settings, none⟩ operations).document = {} ∨
      ∃ text, (run ⟨settings, none⟩ operations).document = .parse settings.toFileFormat text := by
  by_cases hleave : ∃ text path, Operation.Leave operations text path
  · obtain ⟨text, path, hleave⟩ := hleave
    rw [run_of_leave _ hleave]
    exact Or.inr ⟨text, rfl⟩
  · rw [run_of_not_leave rfl fun text path htext => hleave ⟨text, path, htext⟩]
    exact Or.inl rfl

end Viewer

/-- The lines that are typed in a session at the prompt, up to the one that ends it. -/
def Operation.ofPrompt (files : Files) (target : Target) (input : Bytes) : List Operation :=
  match hline : nextLine? input with
  | none => []
  | some (typed, rest) =>
    match Text.ofBytes? typed with
    | none => []
    | some text =>
      if Command.parse text = .ok .quit then
        []
      else
        have : rest.length < input.length := length_lt_of_nextLine? hline
        .line files target text :: ofPrompt files target rest
termination_by input.length

/-- What a server reads in a session, up to the reading that ends it. -/
def Operation.ofService (files : Files) (limit : Nat) (input : Bytes) : List Operation :=
  (upToEnd (readMessages limit input)).map (.reading files limit)

/-- A line with a reply leads to the viewer of that reply. -/
theorem Viewer.after_line {v next : Viewer} {files : Files} {target : Target}
    {line reply : Text} (hreply : v.reply? files target line = some (reply, next)) :
    v.after (.line files target line) = next := by
  rw [after, hreply]

/-- Nothing is typed where the input ends. -/
theorem Operation.ofPrompt_of_none {input : Bytes} (hline : nextLine? input = none)
    (files : Files) (target : Target) : ofPrompt files target input = [] := by
  rw [ofPrompt]
  split
  · rfl
  · next hsome =>
    rw [hline] at hsome
    contradiction

/-- What is typed is a line, unless it is no text or ends the session, and what is typed behind
it. -/
theorem Operation.ofPrompt_of_some {input typed rest : Bytes}
    (hline : nextLine? input = some (typed, rest)) (files : Files) (target : Target) :
    ofPrompt files target input =
      match Text.ofBytes? typed with
      | none => []
      | some text =>
        if Command.parse text = .ok .quit then [] else
          .line files target text :: ofPrompt files target rest := by
  rw [ofPrompt]
  split
  · next hnone =>
    rw [hline] at hnone
    contradiction
  · next typed' rest' hsome =>
    rw [hline] at hsome
    obtain ⟨rfl, rfl⟩ := Prod.mk.inj (Option.some.inj hsome)
    rfl

/-- The viewer at the end of a session at the prompt, whatever is not yet shown. -/
theorem Transcript.viewer_onward (files : Files) (target : Target) (pending : Text) (v : Viewer)
    (input : Bytes) :
    (onward files target pending v input).viewer =
      v.run (Operation.ofPrompt files target input) := by
  cases hline : nextLine? input with
  | none => rw [onward_of_none hline, Operation.ofPrompt_of_none hline, Viewer.run_nil]
  | some line =>
    obtain ⟨typed, rest⟩ := line
    have hshorter : rest.length < input.length := length_lt_of_nextLine? hline
    rw [onward_of_some hline, Operation.ofPrompt_of_some hline]
    cases Text.ofBytes? typed with
    | none => rfl
    | some text =>
      have hquit := v.reply?_eq_none_iff files target text
      cases hreply : v.reply? files target text with
      | none => simp only [if_pos (hquit.mp hreply), hreply, Viewer.run_nil]
      | some answer =>
        have hstay : Command.parse text ≠ .ok .quit := by
          rw [← hquit.ne, hreply]
          exact Option.some_ne_none _
        simp only [hreply, if_neg hstay, Viewer.run_cons, Viewer.after_line hreply, after]
        exact viewer_onward files target answer.1 answer.2 rest
termination_by input.length

/-- The viewer at the end of a session at the prompt. -/
theorem Transcript.viewer_ofInput (files : Files) (target : Target) (v : Viewer) (input : Bytes) :
    (ofInput files target v input).viewer = v.run (Operation.ofPrompt files target input) :=
  viewer_onward files target [] v input

/-- The viewer at the end of a session over readings. -/
theorem Service.viewer_ofReadings (files : Files) (limit : Nat) (s : Server)
    (readings : List Reading) :
    (ofReadings files limit s readings).viewer =
      s.viewer.run ((upToEnd readings).map (.reading files limit)) := by
  induction readings generalizing s with
  | nil => rfl
  | cons reading readings ih =>
    rw [ofReadings, upToEnd, Server.step_eq]
    cases reading.endsSession with
    | true => rfl
    | false => exact ih ⟨_, (s.viewer.react files limit reading).2⟩

/-- The viewer at the end of a session of a server. -/
theorem Service.viewer_ofInput (files : Files) (limit : Nat) (v : Viewer) (input : Bytes) :
    (ofInput files limit v input).viewer = v.run (Operation.ofService files limit input) := by
  rw [ofInput, ofServer_eq_ofReadings, viewer_ofReadings]
  rfl

/-- What a viewer shows after operations on one that showed nothing: the last text loaded in it,
unless it was cleared behind that load. An operation that fails has no part in it, and a session at
the prompt or of a server is one more run. -/
theorem Viewer.run_shows (settings : Settings) (operations : List Operation) :
    let v := run ⟨settings, none⟩ operations
    v.settings = settings ∧
    (∀ text path, Operation.Leave operations text path →
      v.isLoaded = true ∧ v.document = .parse settings.toFileFormat text ∧ v.path = path) ∧
    ((∀ text path, ¬ Operation.Leave operations text path) →
      v.isLoaded = false ∧ v.document = {} ∧ v.path = none) ∧
    (v.isLoaded = false → v.document = {} ∧ v.path = none) ∧
    (∀ operation : Operation, operation.AsksLoad →
      (∃ text path, operation.Loads text path) ∨ operation.Fails v) ∧
    (∀ operation : Operation, operation.Fails v → operation.Keeps ∧ v.after operation = v) ∧
    (∀ files target input, (Transcript.ofInput files target v input).viewer =
      run ⟨settings, none⟩ (operations ++ Operation.ofPrompt files target input)) ∧
    (∀ files limit input, (Service.ofInput files limit v input).viewer =
      run ⟨settings, none⟩ (operations ++ Operation.ofService files limit input)) := by
  refine ⟨settings_run _ _, ?_, ?_, ?_, ?_, ?_, ?_, ?_⟩
  · intro text path hleave
    rw [run_of_leave _ hleave]
    exact ⟨rfl, rfl, rfl⟩
  · intro hnone
    rw [run_of_not_leave rfl hnone]
    exact ⟨rfl, rfl, rfl⟩
  · exact document_of_not_isLoaded
  · exact fun operation hload => loads_or_fails _ hload
  · exact fun operation hfails => ⟨keeps_of_fails hfails, after_of_keeps _ (keeps_of_fails hfails)⟩
  · exact fun files target input => by rw [Transcript.viewer_ofInput, run_append]
  · exact fun files limit input => by rw [Service.viewer_ofInput, run_append]

/-- A file loaded at the prompt stays on display through a file that is missing, a command that is
unknown and a body that is too long, until the display is cleared. -/
theorem Viewer.run_shows_until_clear :
    let files : Files := fun path =>
      if path = "a.txt".toList then .ok (Text.toBytes "x".toList) else .error .missing
    let target := Style.plain.target {}
    let missing : Operation := .loadFile files "b.txt".toList
    let operations : List Operation :=
      [.loadText "y".toList, .line files target "load a.txt".toList, missing,
        .line files target "lode a.txt".toList, .reading files 8 (.oversized 9 [])]
    let v := run ⟨{}, none⟩ operations
    let cleared := run ⟨{}, none⟩ (operations ++ [.clear])
    Operation.Leave operations "x".toList (some "a.txt".toList) ∧
      (v.isLoaded = true ∧ v.document = .parse (Settings.toFileFormat {}) "x".toList ∧
        v.path = some "a.txt".toList) ∧
      missing.AsksLoad ∧ ((∃ text path, missing.Loads text path) ∨ missing.Fails v) ∧
      missing.Fails v ∧ (missing.Keeps ∧ v.after missing = v) ∧
      (∀ text path, ¬ Operation.Leave (operations ++ [.clear]) text path) ∧
      cleared.isLoaded = false ∧ cleared.document = {} ∧ cleared.path = none := by
  intro files target missing operations v cleared
  have hmissing (v : Viewer) : missing.Fails v := .file rfl
  have hunknown : (Operation.line files target "lode a.txt".toList).Fails {} := .line rfl
  have hlong : (Operation.reading files 8 (.oversized 9 [])).Fails {} :=
    .response List.mem_cons_self
  have hload : (Operation.line files target "load a.txt".toList).Loads "x".toList
      (some "a.txt".toList) := .line rfl rfl
  have hleave : Operation.Leave operations "x".toList (some "a.txt".toList) := by
    refine ⟨[.loadText "y".toList], _, _, rfl, hload, ?_⟩
    simp only [List.forall_mem_cons]
    exact ⟨keeps_of_fails (hmissing {}), keeps_of_fails hunknown, keeps_of_fails hlong, by simp⟩
  have hnone (text : Text) (path : Option Text) :
      ¬ Operation.Leave (operations ++ [.clear]) text path := by
    rw [Operation.leave_append_singleton_iff]
    rintro (hloads | ⟨-, hkeeps⟩)
    · cases hloads
    · exact hkeeps.2 .clear
  have hasks : missing.AsksLoad := .file files "b.txt".toList
  obtain ⟨-, hshown, -, -, hloads, hfailed, -, -⟩ := run_shows {} operations
  obtain ⟨-, -, hempty, hunloaded, -⟩ := run_shows {} (operations ++ [.clear])
  have hcleared : cleared.isLoaded = false := (hempty hnone).1
  exact ⟨hleave, hshown _ _ hleave, hasks, hloads missing hasks, hmissing v,
    hfailed missing (hmissing v), hnone, hcleared, hunloaded hcleared⟩

end SpanViewer
