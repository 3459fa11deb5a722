import SpanViewer.Proofs.Viewer.Run

/-!
# Replies at the prompt

Replies of different kinds are different texts. The report of a fault begins like no reply to a
command that is carried out, and the report of a command that is refused like no other report.
-/

namespace SpanViewer

/-- Numbered lines do not begin like the report of a fault. -/
theorem Text.head?_numberedLines (lines : List Text) : (numberedLines lines).head? ≠ some 'e' := by
  have hnumber : (ofNumber (0 + 1)).padLeft 4 = "   1".toList := by decide
  cases lines with
  | nil => nofun
  | cons line lines =>
    rw [numberedLines, List.mapIdx_cons, hnumber]
    nofun

/-- Listed words do not begin like the report of a fault. -/
theorem head?_listWords (marker : Text) (words : List Word) :
    (listWords marker words).head? ≠ some 'e' := by
  have hnumber : (Text.ofNumber 0).padLeft 3 = "  0".toList := by decide
  cases words with
  | nil => nofun
  | cons w words =>
    rw [listWords, List.mapIdx_cons, hnumber]
    nofun

namespace Viewer

variable {v next : Viewer} {files : Files} {target : Target} {command : Command} {fault : Fault}

/-- A command that is carried out is not replied to like one that fails. -/
theorem head?_of_attempt {reply : Text}
    (hattempt : v.attempt files target command = .ok (reply, next)) : reply.head? ≠ some 'e' := by
  have hreply {answer : Text × Viewer} (hanswer : answer = (reply, next))
      (hhead : answer.1.head? ≠ some 'e') : reply.head? ≠ some 'e' := by
    rwa [hanswer] at hhead
  cases command with
  | empty | clear | help | quit => exact hreply (Except.ok.inj hattempt) nofun
  | load path =>
    rw [attempt_load] at hattempt
    obtain ⟨loaded, -, hanswer⟩ := exists_of_map_eq_ok hattempt
    exact hreply hanswer nofun
  | source =>
    rw [attempt_source] at hattempt
    obtain ⟨document, -, hanswer⟩ := exists_of_map_eq_ok hattempt
    exact hreply hanswer (Text.head?_numberedLines _)
  | derived =>
    rw [attempt_derived] at hattempt
    obtain ⟨document, -, hanswer⟩ := exists_of_map_eq_ok hattempt
    exact hreply hanswer (Text.head?_numberedLines _)
  | words number =>
    rw [attempt_words] at hattempt
    obtain ⟨document, -, hanswer⟩ := exists_of_bind_eq_ok hattempt
    split at hanswer
    · contradiction
    · exact hreply (Except.ok.inj hanswer) (head?_listWords _ _)
  | hover number index =>
    rw [attempt_hover] at hattempt
    obtain ⟨document, -, hanswer⟩ := exists_of_bind_eq_ok hattempt
    split at hanswer
    · contradiction
    · obtain ⟨h, -, hanswer⟩ := exists_of_map_eq_ok hanswer
      exact hreply hanswer nofun

/-- A command that fails is not reported like one that is refused. -/
theorem head?_message_of_attempt (hattempt : v.attempt files target command = .error fault) :
    fault.message.head? ≠ some 'b' := by
  cases ofCommand_of_attempt hattempt <;> nofun

end Viewer

/-- Faults that are replied to alike have one message. -/
theorem Fault.message_eq_of_reply_eq {fault other : Fault} (hreply : fault.reply = other.reply) :
    fault.message = other.message :=
  List.append_cancel_left (List.append_cancel_right hreply)

namespace Viewer

variable {v : Viewer} {files : Files} {target : Target} {line returned : Text}

/-- The reply to a line with a command is not that to a line that is refused. -/
theorem ne_reply_badArguments {command : Command} (hline : Command.parse line = .ok command)
    {answer : Text × Viewer} (hanswer : v.reply? files target line = some answer)
    (name reason : Text) : answer.1 ≠ (Fault.badArguments name reason).reply := by
  have hquit : command ≠ .quit := by
    rintro rfl
    rw [(v.reply?_eq_none_iff files target line).mpr hline] at hanswer
    contradiction
  rw [reply?_of_parse hline hquit] at hanswer
  obtain rfl := Option.some.inj hanswer
  cases hattempt : v.attempt files target command with
  | ok answer =>
    obtain ⟨reply, next⟩ := answer
    exact fun heq => head?_of_attempt hattempt (congrArg List.head? heq)
  | error fault =>
    intro heq
    have hmessage := Fault.message_eq_of_reply_eq heq
    exact head?_message_of_attempt hattempt (congrArg List.head? hmessage)

end Viewer

end SpanViewer
