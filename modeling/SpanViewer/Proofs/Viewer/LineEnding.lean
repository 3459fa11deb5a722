import SpanViewer.Proofs.Highlight.LineEnding
import SpanViewer.Viewer

/-!
# Line endings on display

It does not matter how the lines of a file end. With the delimiter that both kinds of files share, a
text and the same text with carriage returns are displayed alike, and pointing at a word of either
shows the same.
-/

namespace SpanViewer

/-- What pointing at a word of two displays gives: the same error, or the same word at the same
place and spans that are written alike. -/
inductive SameHover : Except Fault Hover → Except Fault Hover → Prop
  /-- Both fail for the same reason. -/
  | error (cause : Fault) : SameHover (.error cause) (.error cause)
  /-- Both show the same word, and with it the same text and the same class. -/
  | ok {shown returned : Hover} (hline : returned.line = shown.line)
      (hindex : returned.index = shown.index) (hword : returned.word = shown.word)
      (hmapped : returned.highlight.mapped = shown.highlight.mapped)
      (hwritten : ∀ target : Target,
        target.highlight returned.highlight = target.highlight shown.highlight) :
      SameHover (.ok shown) (.ok returned)

/-- Documents with the same derived form and the same lines of the source show the same. -/
theorem Document.hover_sameHover {d returned : Document} (hderived : returned.derived = d.derived)
    (hsource : List.Forall₂ Text.SameLine d.source returned.source) (policy : HoverPolicy)
    (line index : Nat) :
    SameHover (d.hover policy line index) (returned.hover policy line index) := by
  unfold Document.hover
  rw [hderived]
  cases d.derived[line]? with
  | none => exact .error _
  | some words =>
    simp only
    cases words[policy.resolve words index]? with
    | none => exact .error _
    | some word =>
      have hcut := Highlight.cut_sameLines hsource word.position
      exact .ok rfl rfl rfl hcut.mapped (Target.highlight_eq_of_sameLines hcut)

namespace Viewer

/-- A viewer that has put a text on display, be it from a file or not. -/
inductive Loads (v : Viewer) (text : Text) : Viewer → Prop
  /-- The text was given. -/
  | text : v.Loads text (v.loadText text)
  /-- The text was read from a file. -/
  | file {files : Files} {path : Text} {loaded : Viewer} (hread : files.readText path = .ok text)
      (hload : v.loadFile files path = .ok loaded) : v.Loads text loaded

/-- A text on display is a document that is read by the settings. -/
theorem Loads.exists_display {v loaded : Viewer} {text : Text} (hload : v.Loads text loaded) :
    ∃ path, loaded =
      { v with display := some ⟨.parse v.settings.toFileFormat text, path⟩ } := by
  cases hload with
  | text => exact ⟨none, rfl⟩
  | @file files path loaded hread hload =>
    simp only [loadFile, hread, Except.ok.injEq] at hload
    exact ⟨some path, hload.symm⟩

/-- A text and the same text with carriage returns are displayed alike. -/
theorem loads_withReturns {v loaded returned : Viewer} {text : Text}
    (hdelimiter : v.settings.delimiter = ({} : FileFormat).delimiter)
    (haccept : v.settings.acceptLineFeed = true) (hreturn : '\r' ∉ text)
    (hload : v.Loads text loaded) (hload' : v.Loads text.withReturns returned) :
    returned.document.derived = loaded.document.derived ∧
      ∀ line index, SameHover (loaded.hover line index) (returned.hover line index) := by
  obtain ⟨path, rfl⟩ := hload.exists_display
  obtain ⟨path', rfl⟩ := hload'.exists_display
  obtain ⟨hderived, hsource⟩ := Document.parse_withReturns hdelimiter haccept hreturn
  exact ⟨hderived, fun line index => Document.hover_sameHover hderived hsource _ line index⟩

/-- A span that ends behind its line, on display from a text and from a file with carriage
returns. -/
theorem loads_withReturns_behind_line :
    let text : Text := "if é:\n  go\n##########\n  let -- ;1:4,2:9".toList
    let files : Files := fun _ => .ok text.withReturns.toBytes
    let v : Viewer := { settings := { indentMarker := ['.'], color := false } }
    ∃ returned, v.loadFile files "go".toList = .ok returned ∧
      returned.document.derived = (v.loadText text).document.derived ∧
      ∀ line index, SameHover ((v.loadText text).hover line index) (returned.hover line index) := by
  intro text files v
  have hread : files.readText "go".toList = .ok text.withReturns := by
    simp only [files, Files.readText, bind, Except.bind, Text.ofBytes?_toBytes]
    rfl
  have hload : ∃ returned, v.loadFile files "go".toList = .ok returned := by
    unfold loadFile
    rw [hread]
    exact ⟨_, rfl⟩
  obtain ⟨returned, hreturned⟩ := hload
  exact ⟨returned, hreturned,
    loads_withReturns rfl rfl (by decide) .text (.file hread hreturned)⟩

end Viewer

end SpanViewer
