import SpanViewer.Proofs.Prompt.Execution
import SpanViewer.Proofs.Protocol.Readings

/-!
# Operations on a viewer

A viewer is used directly, by lines typed at the prompt and by what a server reads. Each operation
does one of three things: it puts a text on display, it clears the display, or it changes nothing.
Which of them it does depends on the operation and on the files, not on what is on display.
-/

namespace SpanViewer

/-- What can be done with a viewer. -/
inductive Operation where
  /-- Puts a text on display. -/
  | loadText (text : Text)
  /-- Puts a file on display. -/
  | loadFile (files : Files) (path : Text)
  /-- Forgets the document on display. -/
  | clear
  /-- Points at a word. -/
  | hover (line index : Nat)
  /-- Asks what pointing at an indentation means. -/
  | policy
  /-- Asks for the document on display. -/
  | document
  /-- A line is typed at the prompt. -/
  | line (files : Files) (target : Target) (text : Text)
  /-- A server reads from its input. -/
  | reading (files : Files) (limit : Nat) (reading : Reading)

namespace Operation

/-- A text is put on display, from a file at a path or from none. A request that names both a path
and a text is one for the file. -/
inductive Loads : Operation → Text → Option Text → Prop
  /-- The text is given. -/
  | text (text : Text) : Loads (.loadText text) text none
  /-- The text is that of a file. -/
  | file {files : Files} {path text : Text} (hread : files.readText path = .ok text) :
      Loads (.loadFile files path) text (some path)
  /-- A command reads a file. -/
  | line {files : Files} {target : Target} {line path text : Text}
      (hline : Command.parse line = .ok (.load path)) (hread : files.readText path = .ok text) :
      Loads (.line files target line) text (some path)
  /-- A request names a file. -/
  | requestFile {files : Files} {limit : Nat} {m : Message} {rest : Bytes}
      {arguments : Option Json} {path text : Text}
      (hcontent : m.content = .request "load".toList arguments)
      (hpath : textArgument? "path" arguments = some path)
      (hread : files.readText path = .ok text) :
      Loads (.reading files limit (.message m rest)) text (some path)
  /-- A request gives the text. -/
  | requestText {files : Files} {limit : Nat} {m : Message} {rest : Bytes}
      {arguments : Option Json} {text : Text}
      (hcontent : m.content = .request "load".toList arguments)
      (hpath : textArgument? "path" arguments = none)
      (htext : textArgument? "text" arguments = some text) :
      Loads (.reading files limit (.message m rest)) text none

/-- The display is cleared. -/
inductive Clears : Operation → Prop
  /-- Directly. -/
  | clear : Clears .clear
  /-- By a command. -/
  | line {files : Files} {target : Target} {line : Text}
      (hline : Command.parse line = .ok .clear) : Clears (.line files target line)

/-- Nothing is put on display, and nothing is cleared. -/
def Keeps (operation : Operation) : Prop :=
  (∀ text path, ¬ operation.Loads text path) ∧ ¬ operation.Clears

/-- The operation is to put something on display. -/
inductive AsksLoad : Operation → Prop
  /-- A text. -/
  | text (text : Text) : AsksLoad (.loadText text)
  /-- A file. -/
  | file (files : Files) (path : Text) : AsksLoad (.loadFile files path)
  /-- By a command. -/
  | line {files : Files} {target : Target} {line path : Text}
      (hline : Command.parse line = .ok (.load path)) : AsksLoad (.line files target line)
  /-- By a request. -/
  | request {files : Files} {limit : Nat} {m : Message} {rest : Bytes} {arguments : Option Json}
      (hcontent : m.content = .request "load".toList arguments) :
      AsksLoad (.reading files limit (.message m rest))

/-- Whoever carries out the operation is told that it fails. -/
inductive Fails (v : Viewer) : Operation → Prop
  /-- A file cannot be put on display. -/
  | file {files : Files} {path : Text} {fault : Fault}
      (hload : v.loadFile files path = .error fault) : Fails v (.loadFile files path)
  /-- There is no such word, or nothing is loaded. -/
  | hover {line index : Nat} {fault : Fault} (hhover : v.hover line index = .error fault) :
      Fails v (.hover line index)
  /-- The reply to a line reports a fault. -/
  | line {files : Files} {target : Target} {line : Text} {fault : Fault} {next : Viewer}
      (hreply : v.reply? files target line = some (fault.reply, next)) :
      Fails v (.line files target line)
  /-- A response says that a request failed, or that a body is too long. -/
  | response {files : Files} {limit : Nat} {reading : Reading} {requestSeq : Nat}
      {command : Text} {text : Option Text} {body : Option Json}
      (hsent : .response requestSeq false command text body ∈ (v.react files limit reading).1) :
      Fails v (.reading files limit reading)
  /-- A body is no message. -/
  | malformed {files : Files} {limit : Nat} {rest : Bytes} :
      Fails v (.reading files limit (.malformed rest))

end Operation

namespace Viewer

/-- The viewer after an operation. -/
def after (v : Viewer) : Operation → Viewer
  | .loadText text => v.loadText text
  | .loadFile files path =>
    match v.loadFile files path with
    | .ok loaded => loaded
    | .error _ => v
  | .clear => v.clear
  | .hover _ _ => v
  | .policy => v
  | .document => v
  | .line files target line =>
    match v.reply? files target line with
    | some (_, next) => next
    | none => v
  | .reading files limit reading => (v.react files limit reading).2

/-- The viewer with a text on display. -/
def showing (v : Viewer) (text : Text) (path : Option Text) : Viewer :=
  { v with display := some ⟨.parse v.settings.toFileFormat text, path⟩ }

/-- A file that can be read is put on display. -/
theorem loadFile_eq_ok_iff {v loaded : Viewer} {files : Files} {path : Text} :
    v.loadFile files path = .ok loaded ↔
      ∃ text, files.readText path = .ok text ∧ loaded = v.showing text (some path) := by
  unfold loadFile
  cases files.readText path with
  | ok text => simp [showing, eq_comm]
  | error cause => simp

/-- A command that neither loads nor clears changes nothing. -/
theorem eq_of_attempt {v next : Viewer} {files : Files} {target : Target} {command : Command}
    {reply : Text} (hload : ∀ path, command ≠ .load path) (hclear : command ≠ .clear)
    (hattempt : v.attempt files target command = .ok (reply, next)) : next = v := by
  cases command with
  | load path => exact absurd rfl (hload path)
  | clear => exact absurd rfl hclear
  | empty | help | quit => exact (Prod.mk.inj (Except.ok.inj hattempt)).2.symm
  | source =>
    rw [attempt_source] at hattempt
    obtain ⟨document, -, hanswer⟩ := exists_of_map_eq_ok hattempt
    exact (Prod.mk.inj hanswer).2.symm
  | derived =>
    rw [attempt_derived] at hattempt
    obtain ⟨document, -, hanswer⟩ := exists_of_map_eq_ok hattempt
    exact (Prod.mk.inj hanswer).2.symm
  | words line =>
    rw [attempt_words] at hattempt
    obtain ⟨document, -, hanswer⟩ := exists_of_bind_eq_ok hattempt
    split at hanswer
    · contradiction
    · exact (Prod.mk.inj (Except.ok.inj hanswer)).2.symm
  | hover line index =>
    rw [attempt_hover] at hattempt
    obtain ⟨document, -, hanswer⟩ := exists_of_bind_eq_ok hattempt
    split at hanswer
    · contradiction
    · obtain ⟨hover, -, hanswer⟩ := exists_of_map_eq_ok hanswer
      exact (Prod.mk.inj hanswer).2.symm

/-- A command to load that is carried out loads a file. -/
theorem exists_loads_of_attempt {v : Viewer} {files : Files} {target : Target} {line path : Text}
    {answer : Text × Viewer} (hline : Command.parse line = .ok (.load path))
    (hattempt : v.attempt files target (.load path) = .ok answer) :
    ∃ text path, (Operation.line files target line).Loads text path := by
  rw [attempt_load] at hattempt
  obtain ⟨loaded, hfile, -⟩ := exists_of_map_eq_ok hattempt
  obtain ⟨text, hread, -⟩ := loadFile_eq_ok_iff.mp hfile
  exact ⟨text, some path, .line hline hread⟩

/-- A request other than `load` changes nothing. -/
theorem eq_of_answer {v next : Viewer} {files : Files} {command : Text}
    {arguments body : Option Json} (hcommand : command ≠ "load".toList)
    (hanswer : v.answer files command arguments = .ok (body, next)) : next = v := by
  have hmap {result : Except Fault Json}
      (hresult : result.map (fun body => (some body, v)) = .ok (body, next)) : next = v := by
    obtain ⟨value, -, hvalue⟩ := exists_of_map_eq_ok hresult
    exact (Prod.mk.inj hvalue).2.symm
  rw [answer, if_neg hcommand] at hanswer
  split at hanswer
  · exact (Prod.mk.inj (Except.ok.inj hanswer)).2.symm
  split at hanswer
  · exact (Prod.mk.inj (Except.ok.inj hanswer)).2.symm
  split at hanswer
  · exact hmap hanswer
  split at hanswer
  · exact hmap hanswer
  split at hanswer
  · exact (Prod.mk.inj (Except.ok.inj hanswer)).2.symm
  · contradiction

/-- A request to load loads what its arguments say. -/
theorem answer_load (v : Viewer) (files : Files) (arguments : Option Json) :
    v.answer files "load".toList arguments =
      (v.answerLoad files arguments).map fun (body, loaded) => (some body, loaded) := by
  have hne : "load".toList ≠ "initialize".toList := by decide
  rw [answer, if_neg hne, if_pos rfl]

/-- The file that a request names is put on display. -/
theorem answer_load_of_path {v loaded : Viewer} {files : Files} {arguments : Option Json}
    {path : Text} (hpath : textArgument? "path" arguments = some path)
    (hfile : v.loadFile files path = .ok loaded) :
    v.answer files "load".toList arguments =
      .ok (some (loaded.loadedJson (some path)), loaded) := by
  rw [answer_load, answerLoad, hpath]
  simp only [hfile]
  rfl

/-- The text that a request gives is put on display. -/
theorem answer_load_of_text (v : Viewer) {files : Files} {arguments : Option Json} {text : Text}
    (hpath : textArgument? "path" arguments = none)
    (htext : textArgument? "text" arguments = some text) :
    v.answer files "load".toList arguments =
      .ok (some ((v.loadText text).loadedJson none), v.loadText text) := by
  rw [answer_load, answerLoad, hpath, htext]
  rfl

/-- A request to load that is carried out loads a file or a text. -/
theorem exists_loads_of_answer {v : Viewer} {files : Files} {m : Message}
    {arguments : Option Json} {outcome : Option Json × Viewer}
    (hcontent : m.content = .request "load".toList arguments)
    (hanswer : v.answer files "load".toList arguments = .ok outcome) (limit : Nat) (rest : Bytes) :
    ∃ text path, (Operation.reading files limit (.message m rest)).Loads text path := by
  rw [answer_load] at hanswer
  obtain ⟨loaded, hload, -⟩ := exists_of_map_eq_ok hanswer
  cases hpath : textArgument? "path" arguments with
  | some path =>
    rw [answerLoad, hpath] at hload
    obtain ⟨shown, hfile, -⟩ := exists_of_bind_eq_ok hload
    obtain ⟨text, hread, -⟩ := loadFile_eq_ok_iff.mp hfile
    exact ⟨text, some path, .requestFile hcontent hpath hread⟩
  | none =>
    cases htext : textArgument? "text" arguments with
    | some text => exact ⟨text, none, .requestText hcontent hpath htext⟩
    | none =>
      rw [answerLoad, hpath, htext] at hload
      contradiction

/-- A request that is carried out is answered by a success and, it may be, an event. -/
theorem respond_of_answer {v next : Viewer} {files : Files} {command : Text}
    {arguments body : Option Json} (hanswer : v.answer files command arguments = .ok (body, next))
    (seq : Nat) :
    v.respond files seq command arguments =
      (.response seq true command none body :: announcement command body, next) := by
  rw [respond, hanswer]

/-- A request that fails is answered by that. -/
theorem respond_of_error {v : Viewer} {files : Files} {command : Text} {arguments : Option Json}
    {fault : Fault} (hanswer : v.answer files command arguments = .error fault) (seq : Nat) :
    v.respond files seq command arguments =
      ([.response seq false command (some fault.message) none], v) := by
  rw [respond, hanswer]

/-- What announces a success is no response. -/
theorem response_not_mem_announcement (command : Text) (body : Option Json) (requestSeq : Nat)
    (success : Bool) (name : Text) (text : Option Text) (sent : Option Json) :
    Content.response requestSeq success name text sent ∉ announcement command body := by
  unfold announcement
  split
  · simp
  · split <;> simp

/-- A reply to a line is that of a command, or nothing changes. -/
theorem reply?_cases {v next : Viewer} {files : Files} {target : Target} {line reply : Text}
    (hreply : v.reply? files target line = some (reply, next)) :
    (∃ command, Command.parse line = .ok command ∧
        v.attempt files target command = .ok (reply, next)) ∨ next = v := by
  cases hline : Command.parse line with
  | error fault =>
    rw [reply?_of_parse_error hline] at hreply
    exact Or.inr (Prod.mk.inj (Option.some.inj hreply)).2.symm
  | ok command =>
    by_cases hquit : command = .quit
    · rw [(v.reply?_eq_none_iff files target line).mpr (hquit ▸ hline)] at hreply
      contradiction
    · rw [reply?_of_parse hline hquit] at hreply
      cases hattempt : v.attempt files target command with
      | ok answer =>
        rw [hattempt] at hreply
        obtain rfl := Option.some.inj hreply
        exact Or.inl ⟨command, rfl, hattempt⟩
      | error fault =>
        rw [hattempt] at hreply
        exact Or.inr (Prod.mk.inj (Option.some.inj hreply)).2.symm

/-- A command that loads a file that can be read is replied to. -/
theorem reply?_of_load (v : Viewer) {files : Files} {line path text : Text}
    (hline : Command.parse line = .ok (.load path)) (hread : files.readText path = .ok text)
    (target : Target) :
    v.reply? files target line =
      some (loadedReply path (v.showing text (some path)), v.showing text (some path)) := by
  rw [reply?_of_parse hline (by simp), attempt_load,
    loadFile_eq_ok_iff.mpr ⟨text, hread, rfl⟩]
  rfl

/-- A reply that begins otherwise is not the report of a fault. -/
theorem ne_reply_of_head? {reply : Text} {first : Char} (hfirst : reply.head? = some first)
    (hother : first ≠ 'e') (fault : Fault) : reply ≠ fault.reply := by
  rintro rfl
  exact hother (Option.some.inj hfirst).symm

/-- A text that an operation loads is on display after it. -/
theorem after_of_loads (v : Viewer) {operation : Operation} {text : Text} {path : Option Text}
    (hload : operation.Loads text path) : v.after operation = v.showing text path := by
  cases hload with
  | text => rfl
  | @file files path _ hread =>
    have hfile := (loadFile_eq_ok_iff (v := v)).mpr ⟨text, hread, rfl⟩
    simp only [after, hfile]
  | @line files target line path _ hline hread =>
    simp only [after, v.reply?_of_load hline hread]
  | requestFile hcontent hpath hread =>
    have hfile := (loadFile_eq_ok_iff (v := v)).mpr ⟨text, hread, rfl⟩
    rw [after, react_of_request hcontent, respond_of_answer (answer_load_of_path hpath hfile)]
  | requestText hcontent hpath htext =>
    rw [after, react_of_request hcontent, respond_of_answer (answer_load_of_text v hpath htext)]
    rfl

/-- After an operation that clears nothing is on display. -/
theorem after_of_clears (v : Viewer) {operation : Operation} (hclear : operation.Clears) :
    v.after operation = v.clear := by
  cases hclear with
  | clear => rfl
  | line hline =>
    rw [after, reply?_of_parse hline (by simp), attempt_clear]

/-- A request that loads nothing changes nothing. -/
theorem after_request_of_keeps (v : Viewer) {files : Files} {limit : Nat} {m : Message}
    {command : Text} {arguments : Option Json} {rest : Bytes}
    (hcontent : m.content = .request command arguments)
    (hkeeps : (Operation.reading files limit (.message m rest)).Keeps) :
    (v.respond files m.seq command arguments).2 = v := by
  unfold respond
  cases hanswer : v.answer files command arguments with
  | error fault => rfl
  | ok outcome =>
    obtain ⟨body, next⟩ := outcome
    by_cases hcommand : command = "load".toList
    · subst hcommand
      obtain ⟨text, path, hload⟩ := exists_loads_of_answer hcontent hanswer limit rest
      exact absurd hload (hkeeps.1 text path)
    · exact eq_of_answer hcommand hanswer

/-- Any other operation changes nothing. -/
theorem after_of_keeps (v : Viewer) {operation : Operation} (hkeeps : operation.Keeps) :
    v.after operation = v := by
  cases operation with
  | loadText text => exact absurd (.text text) (hkeeps.1 text none)
  | loadFile files path =>
    cases hfile : v.loadFile files path with
    | ok loaded =>
      obtain ⟨text, hread, -⟩ := loadFile_eq_ok_iff.mp hfile
      exact absurd (.file hread) (hkeeps.1 text (some path))
    | error fault => simp only [after, hfile]
  | clear => exact absurd .clear hkeeps.2
  | hover line index => rfl
  | policy => rfl
  | document => rfl
  | line files target line =>
    cases hreply : v.reply? files target line with
    | none => simp only [after, hreply]
    | some answer =>
      obtain ⟨reply, next⟩ := answer
      simp only [after, hreply]
      rcases reply?_cases hreply with ⟨command, hline, hattempt⟩ | hnext
      · refine eq_of_attempt ?_ ?_ hattempt
        · rintro path rfl
          obtain ⟨text, path, hload⟩ := exists_loads_of_attempt hline hattempt
          exact hkeeps.1 text path hload
        · rintro rfl
          exact hkeeps.2 (.line hline)
      · exact hnext
  | reading files limit reading =>
    cases reading with
    | message m rest =>
      cases hcontent : m.content with
      | request command arguments =>
        rw [after, react_of_request hcontent]
        exact after_request_of_keeps v hcontent hkeeps
      | response =>
        rw [after, react_of_not_request (by simp [hcontent])]
      | event =>
        rw [after, react_of_not_request (by simp [hcontent])]
    | endOfInput | malformed | oversized | broken => rfl

/-- An operation that fails neither loads nor clears. -/
theorem keeps_of_fails {v : Viewer} {operation : Operation} (hfails : operation.Fails v) :
    operation.Keeps := by
  refine ⟨fun text path hload => ?_, fun hclear => ?_⟩
  · cases hload with
    | text => cases hfails
    | file hread =>
      cases hfails with
      | file hfault =>
        rw [loadFile_eq_ok_iff.mpr ⟨text, hread, rfl⟩] at hfault
        contradiction
    | line hline hread =>
      cases hfails with
      | line hreply =>
        rw [v.reply?_of_load hline hread] at hreply
        exact ne_reply_of_head? rfl (by decide) _ (Prod.mk.inj (Option.some.inj hreply)).1
    | requestFile hcontent hpath hread =>
      cases hfails with
      | response hsent =>
        have hfile := (loadFile_eq_ok_iff (v := v)).mpr ⟨text, hread, rfl⟩
        rw [react_of_request hcontent,
          respond_of_answer (answer_load_of_path hpath hfile)] at hsent
        simp [response_not_mem_announcement] at hsent
    | requestText hcontent hpath htext =>
      cases hfails with
      | response hsent =>
        rw [react_of_request hcontent,
          respond_of_answer (answer_load_of_text v hpath htext)] at hsent
        simp [response_not_mem_announcement] at hsent
  · cases hclear with
    | clear => cases hfails
    | line hline =>
      cases hfails with
      | line hreply =>
        rw [reply?_of_parse hline (by simp), attempt_clear] at hreply
        exact ne_reply_of_head? rfl (by decide) _ (Prod.mk.inj (Option.some.inj hreply)).1

/-- An operation that is to put something on display does so, unless it fails. -/
theorem loads_or_fails (v : Viewer) {operation : Operation} (hload : operation.AsksLoad) :
    (∃ text path, operation.Loads text path) ∨ operation.Fails v := by
  cases hload with
  | text text => exact Or.inl ⟨text, none, .text text⟩
  | file files path =>
    cases hfile : v.loadFile files path with
    | ok loaded =>
      obtain ⟨text, hread, -⟩ := loadFile_eq_ok_iff.mp hfile
      exact Or.inl ⟨text, some path, .file hread⟩
    | error fault => exact Or.inr (.file hfile)
  | @line files target line path hline =>
    cases hattempt : v.attempt files target (.load path) with
    | ok answer => exact Or.inl (exists_loads_of_attempt hline hattempt)
    | error fault =>
      have hreply : v.reply? files target line = some (fault.reply, v) := by
        rw [reply?_of_parse hline (by simp), hattempt]
      exact Or.inr (.line hreply)
  | @request files limit m rest arguments hcontent =>
    cases hanswer : v.answer files "load".toList arguments with
    | ok outcome => exact Or.inl (exists_loads_of_answer hcontent hanswer limit rest)
    | error fault =>
      have hsent : .response m.seq false "load".toList (some fault.message) none ∈
          (v.react files limit (.message m rest)).1 := by
        rw [react_of_request hcontent, respond_of_error hanswer]
        exact List.mem_cons_self
      exact Or.inr (.response hsent)

end Viewer

end SpanViewer
