import SpanViewer.CommandLine.Run
import SpanViewer.Proofs.Prompt.Typed
import SpanViewer.Proofs.Viewer.LineEnding
import SpanViewer.Proofs.Viewer.Operation

/-!
# Three ways to point at a word

A word is pointed at from the prompt, by a request to the server and from the command line. The
prompt and the command line count lines from 1, the server from 0. For the same document, settings
and style the three answer alike: none of them shows anything, or all show the same word.
-/

namespace SpanViewer

namespace Style

/-- The name of a style. -/
def name : Style → Text
  | ansi => "ansi".toList
  | html => "html".toList
  | plain => "plain".toList

/-- A style is found by its name. -/
theorem ofName?_name (style : Style) : ofName? style.name = some style := by
  cases style <;> decide

end Style

/-- The arguments of a request to point at a word, where lines are counted from 0. -/
def hoverArguments (line index : Nat) (style : Style) : Json :=
  .object [
    ("format".toList, .string style.name),
    ("line".toList, .natural line),
    ("word".toList, .natural index)]

/-- The line above a word that is shown at the prompt. Blanks at the end of the word are left out. -/
def hoverHeader (line index : Nat) (text kind : Text) : Text :=
  "-- line ".toList ++ .ofNumber line ++ " word ".toList ++ .ofNumber index ++ " `".toList ++
    text.trimEnd ++ "` (".toList ++ kind ++ ")\n".toList

/-- A reply of the prompt, an answer of the server and an outcome of the command line agree on a word
of a line, numbered from 1: all say that it cannot be shown, or all show the same. -/
inductive HoversAgree (v : Viewer) (line seq : Nat) :
    Option (Text × Viewer) → List Content × Viewer → Outcome → Prop
  /-- There is nothing to show. -/
  | failed (fault : Fault) (reason : Text) (failure : Failure) :
      HoversAgree v line seq (some ("error: ".toList ++ fault.message ++ ['\n'], v))
        ([.response seq false "hover".toList (some reason) none], v) ⟨[], .error failure⟩
  /-- The same place, text and class are reported, and what the server calls rendered is what the
  others write. The prompt says so if the word comes from nowhere. -/
  | shown {body : Json} {index : Nat} {text kind rendered : Text} {mapped : Bool}
      (hindex : body.field? "word".toList = some (.natural index))
      (htext : body.field? "text".toList = some (.string text))
      (hkind : body.field? "class".toList = some (.string kind))
      (hmapped : body.field? "mapped".toList = some (.bool mapped))
      (hrendered : body.field? "rendered".toList = some (.string rendered)) :
      HoversAgree v line seq
        (some (hoverHeader line index text kind ++
          (if mapped then [] else "(no source mapping)\n".toList) ++ rendered ++ ['\n'], v))
        ([.response seq true "hover".toList none (some body)], v) ⟨rendered ++ ['\n'], .ok ()⟩

namespace Viewer

/-- A load keeps the settings. -/
theorem Loads.settings_eq {v loaded : Viewer} {text : Text} (hload : v.Loads text loaded) :
    loaded.settings = v.settings := by
  obtain ⟨path, rfl⟩ := hload.exists_display
  rfl

/-- Viewers that show the same text by the same settings show the same of a word. -/
theorem Loads.hover_eq {v w loaded shown : Viewer} {text : Text} (hload : v.Loads text loaded)
    (hshow : w.Loads text shown) (hsettings : w.settings = v.settings) (line index : Nat) :
    shown.hover line index = loaded.hover line index := by
  obtain ⟨path, rfl⟩ := hload.exists_display
  obtain ⟨path', rfl⟩ := hshow.exists_display
  simp only [hover, policy, hsettings]

/-- A word that is shown stands on a line of the document. -/
theorem exists_display_of_hover {v : Viewer} {line index : Nat} {h : Hover}
    (hhover : v.hover line index = .ok h) :
    ∃ display, v.display = some display ∧ line < display.document.derived.length := by
  unfold hover at hhover
  cases hdisplay : v.display with
  | none =>
    rw [hdisplay] at hhover
    contradiction
  | some display =>
    simp only [hdisplay, Document.hover] at hhover
    cases hline : display.document.derived[line]? with
    | none =>
      rw [hline] at hhover
      contradiction
    | some words => exact ⟨display, rfl, (List.getElem?_eq_some_iff.mp hline).1⟩

/-- The prompt reports a word that is shown. -/
theorem attempt_hover_of_ok {v : Viewer} {line index : Nat} {h : Hover}
    (hhover : v.hover (line - 1) index = .ok h) (files : Files) (target : Target) :
    v.attempt files target (.hover line index) = .ok (h.report target line, v) := by
  obtain ⟨display, hdisplay, hline⟩ := exists_display_of_hover hhover
  have hrange : ¬ display.document.derived.length < line := by omega
  rw [attempt_hover, requireDocument_of_display hdisplay, Except.bind, if_neg hrange, hhover]
  rfl

/-- The prompt reports a fault where there is one. -/
theorem attempt_hover_of_error {v : Viewer} {line index : Nat} {fault : Fault}
    (hhover : v.hover (line - 1) index = .error fault) (files : Files) (target : Target) :
    ∃ reported, v.attempt files target (.hover line index) = .error reported := by
  cases hattempt : v.attempt files target (.hover line index) with
  | error reported => exact ⟨reported, rfl⟩
  | ok answer =>
    rw [attempt_hover] at hattempt
    obtain ⟨document, -, hanswer⟩ := exists_of_bind_eq_ok hattempt
    split at hanswer
    · contradiction
    · obtain ⟨h, hok, -⟩ := exists_of_map_eq_ok hanswer
      rw [hhover] at hok
      contradiction

/-- The arguments of a request to point at a word are read as they are meant. -/
theorem answerHover_hoverArguments (v : Viewer) (line index : Nat) (style : Style) :
    v.answerHover (some (hoverArguments line index style)) =
      (v.hover line index).map (Hover.toJson (style.target v.settings)) := by
  have hline : numberArgument "hover" "line" (some (hoverArguments line index style)) =
      .ok line := rfl
  have hindex : numberArgument "hover" "word" (some (hoverArguments line index style)) =
      .ok index := rfl
  have hstyle : styleArgument (some (hoverArguments line index style)) = .ok style := by
    have hformat : argument? "format" (some (hoverArguments line index style)) =
        some (.string style.name) := rfl
    rw [styleArgument, hformat]
    simp only [Style.ofJson?, style.ofName?_name]
  rw [answerHover, hline, hindex, hstyle]
  simp only [bind, Except.bind]
  cases v.hover line index <;> rfl

/-- A request to point at a word is carried out on the viewer. -/
theorem answer_hover (v : Viewer) (files : Files) (line index : Nat) (style : Style) :
    v.answer files "hover".toList (some (hoverArguments line index style)) =
      (v.hover line index).map fun h => (some (h.toJson (style.target v.settings)), v) := by
  have hfirst : "hover".toList ≠ "initialize".toList := by decide
  have hload : "hover".toList ≠ "load".toList := by decide
  have hdocument : "hover".toList ≠ "document".toList := by decide
  rw [answer, if_neg hfirst, if_neg hload, if_neg hdocument, if_pos rfl,
    answerHover_hoverArguments]
  cases v.hover line index <;> rfl

/-- The command line shows what a viewer shows that has the text of the file on display. -/
theorem showWord_eq {v₀ v : Viewer} {files : Files} {path text : Text}
    (hload : v₀.Loads text v) (hread : files.readText path = .ok text) {line : Nat}
    (hline : 0 < line) (index : Nat) (style : Style) :
    Mode.showWord files v.settings path line index style =
      match v.hover (line - 1) index with
      | .ok h => .ok ((style.target v.settings).highlight h.highlight ++ ['\n'])
      | .error fault => .error (.ofHover line index fault) := by
  have hfile := (loadFile_eq_ok_iff (v := ⟨v.settings, none⟩)).mpr ⟨text, hread, rfl⟩
  have hshow := hload.hover_eq (.file hread hfile) hload.settings_eq (line - 1) index
  rw [Mode.showWord, if_neg (Nat.ne_of_gt hline)]
  simp only [hfile, bind, Except.bind, Except.mapError, hshow]
  cases v.hover (line - 1) index <;> rfl

end Viewer

/-- The command line writes what is shown, or fails. -/
theorem Mode.run_hover (files : Files) (settings : Settings) (path : Text) (line index : Nat)
    (style : Style) (input : Bytes) :
    Mode.run files settings (.hover path line index style) input =
      match Mode.showWord files settings path line index style with
      | .error failure => ⟨[], .error failure⟩
      | .ok text => ⟨text, .ok ()⟩ := rfl

/-- Pointing at a word at the prompt, by a request and from the command line gives the same. The
viewer of the first two has a text on display, and the file of the third holds the same text. -/
theorem hoversAgree_of_loads {v₀ v : Viewer} {files others : Files} {path text : Text}
    (hload : v₀.Loads text v) (hread : files.readText path = .ok text) {line index : Nat}
    (hline : 0 < line) (hlines : line < numberBound) (hindex : index < numberBound) {ending : Text}
    (hending : ∀ c ∈ ending, isShellSeparator c = true) (style : Style) (seq : Nat)
    (input : Bytes) :
    HoversAgree v line seq
      (v.reply? others (style.target v.settings) (Command.hoverText line index ++ ending))
      (v.respond others seq "hover".toList (some (hoverArguments (line - 1) index style)))
      (Mode.run files v.settings (.hover path line index style) input) := by
  have hparse := Command.parse_hoverText hline hlines hindex hending
  have hanswer := v.answer_hover others (line - 1) index style
  rw [Viewer.reply?_of_parse hparse nofun, Mode.run_hover,
    Viewer.showWord_eq hload hread hline index style]
  cases hhover : v.hover (line - 1) index with
  | error fault =>
    obtain ⟨reported, hattempt⟩ :=
      Viewer.attempt_hover_of_error hhover others (style.target v.settings)
    rw [hhover] at hanswer
    rw [hattempt, Viewer.respond_of_error hanswer]
    exact .failed reported fault.message _
  | ok h =>
    have hattempt := Viewer.attempt_hover_of_ok hhover others (style.target v.settings)
    rw [hhover] at hanswer
    rw [hattempt, Viewer.respond_of_answer hanswer]
    exact .shown rfl rfl rfl rfl rfl

/-- An indentation that stands for the word behind it, on the first line of a document. -/
theorem hoversAgree_of_loads_indentation :
    let text : Text := "if é:\n  go\n##########\n  let -- ;1:3,2:4".toList
    let files : Files := fun _ => .ok text.toBytes
    let v : Viewer := Viewer.loadText {} text
    Viewer.Loads {} text v ∧ files.readText "go".toList = .ok text ∧ 0 < 1 ∧ 1 < numberBound ∧
      0 < numberBound ∧ (∀ c ∈ [' ', '\n'], isShellSeparator c = true) ∧
      HoversAgree v 1 7
        (v.reply? files (Style.html.target v.settings) (Command.hoverText 1 0 ++ [' ', '\n']))
        (v.respond files 7 "hover".toList (some (hoverArguments (1 - 1) 0 .html)))
        (Mode.run files v.settings (.hover "go".toList 1 0 .html) []) := by
  intro text files v
  have hload : Viewer.Loads {} text v := .text
  have hread : files.readText "go".toList = .ok text := by
    simp only [files, Files.readText, bind, Except.bind, Text.ofBytes?_toBytes]
    rfl
  have hending : ∀ c ∈ [' ', '\n'], isShellSeparator c = true :=
    List.forall_mem_cons.mpr ⟨by decide, List.forall_mem_singleton.mpr (by decide)⟩
  have hline : 1 < numberBound := by decide
  have hindex : 0 < numberBound := by decide
  exact ⟨hload, hread, Nat.one_pos, hline, hindex, hending,
    hoversAgree_of_loads hload hread Nat.one_pos hline hindex hending .html 7 []⟩

end SpanViewer
