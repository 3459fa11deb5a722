import SpanViewer.Proofs.Render.Terminal
import SpanViewer.Proofs.Text.Lines
import SpanViewer.Proofs.Text.SameLine

/-!
# Spans in reverse video

A terminal switches reverse video on and off as it reads, so a text falls into stretches that are
shown as they are and stretches in reverse video, by turns. Of the output for a span these are the
text in front of it, its lines with the line feeds between them, and the text behind it: reverse
video never goes on over the end of a line.
-/

namespace SpanViewer

namespace Terminal

/-- The code, if the piece is one. -/
def Piece.code? : Piece → Option Text
  | code text => some text
  | char _ => none

/-- The codes in a text, from left to right. -/
def codesIn (text : Text) : List Text :=
  (read text).filterMap Piece.code?

/-- How a terminal shows characters. -/
inductive Video where
  /-- As they are. -/
  | normal
  /-- In reverse video. -/
  | reverse
  deriving DecidableEq, Repr

/-- The stretches of the rest of a text, where `seen` is what has been read of the stretch that is
open. There are none if a code does not take turns with the other one, or if a line ends in reverse
video. -/
def stretchesFrom : Video → Text → List Piece → Option (List Text)
  | .normal, seen, [] => some [seen]
  | .reverse, _, [] => none
  | .normal, seen, .char c :: rest => stretchesFrom .normal (seen ++ [c]) rest
  | .reverse, seen, .char c :: rest =>
    if c = '\n' then none else stretchesFrom .reverse (seen ++ [c]) rest
  | .normal, seen, .code code :: rest =>
    if code = Ansi.reverseVideo then (stretchesFrom .reverse [] rest).map (seen :: ·) else none
  | .reverse, seen, .code code :: rest =>
    if code = Ansi.reset then (stretchesFrom .normal [] rest).map (seen :: ·) else none

/-- The stretches of a text between the codes for reverse video and for its end: what is shown as
it is and what is shown in reverse video, by turns. -/
def stretches? (text : Text) : Option (List Text) :=
  stretchesFrom .normal [] (read text)

/-- The codes that are still to come for the stretch that is open. -/
def Video.closing : Video → List Text
  | .normal => []
  | .reverse => [Ansi.reset]

/-- The stretches together are what is shown. -/
theorem flatten_stretchesFrom {video : Video} {seen : Text} {pieces : List Piece}
    {stretches : List Text} (hread : stretchesFrom video seen pieces = some stretches) :
    stretches.flatten = seen ++ pieces.filterMap Piece.char? := by
  fun_induction stretchesFrom video seen pieces generalizing stretches with
  | case1 seen =>
    obtain rfl := Option.some.inj hread
    simp
  | case2 | case4 | case7 | case9 => contradiction
  | case3 seen c rest ih | case5 seen c rest _ ih =>
    rw [ih hread, List.append_assoc]
    rfl
  | case6 seen rest ih | case8 seen rest ih =>
    obtain ⟨later, hlater, rfl⟩ := Option.map_eq_some_iff.mp hread
    rw [List.flatten_cons, ih hlater]
    rfl

/-- The codes around the stretches take turns. -/
theorem codes_stretchesFrom {video : Video} {seen : Text} {pieces : List Piece}
    {stretches : List Text} (hread : stretchesFrom video seen pieces = some stretches) :
    ∃ count, stretches.length = video.closing.length + 2 * count + 1 ∧
      pieces.filterMap Piece.code? = video.closing ++
        (List.replicate count [Ansi.reverseVideo, Ansi.reset]).flatten := by
  fun_induction stretchesFrom video seen pieces generalizing stretches with
  | case1 seen =>
    obtain rfl := Option.some.inj hread
    exact ⟨0, rfl, rfl⟩
  | case2 | case4 | case7 | case9 => contradiction
  | case3 seen c rest ih | case5 seen c rest _ ih => exact ih hread
  | case6 seen rest ih =>
    obtain ⟨later, hlater, rfl⟩ := Option.map_eq_some_iff.mp hread
    obtain ⟨count, hlength, hcodes⟩ := ih hlater
    refine ⟨count + 1, ?_, ?_⟩
    · simp only [Video.closing, List.length_cons, List.length_nil] at hlength ⊢
      omega
    · have hcode : (Piece.code Ansi.reverseVideo).code? = some Ansi.reverseVideo := rfl
      rw [List.filterMap_cons_some hcode, hcodes]
      rfl
  | case8 seen rest ih =>
    obtain ⟨later, hlater, rfl⟩ := Option.map_eq_some_iff.mp hread
    obtain ⟨count, hlength, hcodes⟩ := ih hlater
    refine ⟨count, ?_, ?_⟩
    · simp only [Video.closing, List.length_cons, List.length_nil] at hlength ⊢
      omega
    · have hcode : (Piece.code Ansi.reset).code? = some Ansi.reset := rfl
      rw [List.filterMap_cons_some hcode, hcodes]
      rfl

/-- Characters are read into the stretch that is open, but no line feed in reverse video. -/
theorem stretchesFrom_chars {video : Video} {text : Text} (hfeed : video = .reverse → '\n' ∉ text)
    (seen : Text) (rest : List Piece) :
    stretchesFrom video seen (text.map .char ++ rest) =
      stretchesFrom video (seen ++ text) rest := by
  induction text generalizing seen with
  | nil => simp
  | cons c text ih =>
    have hrest := ih (fun hvideo => List.not_mem_of_not_mem_cons (hfeed hvideo)) (seen ++ [c])
    rw [List.append_assoc, List.singleton_append] at hrest
    rw [← hrest, List.map_cons, List.cons_append]
    cases video with
    | normal => rfl
    | reverse =>
      have hc : c ≠ '\n' := Ne.symm (List.ne_of_not_mem_cons (hfeed rfl))
      rw [stretchesFrom, if_neg hc]

/-- Text without an escape character is read into the stretch that is open. -/
theorem stretchesFrom_append {text : Text} (hescape : '\x1b' ∉ text) (seen rest : Text) :
    stretchesFrom .normal seen (read (text ++ rest)) =
      stretchesFrom .normal (seen ++ text) (read rest) := by
  have hnormal : Video.normal = .reverse → '\n' ∉ text := fun hvideo => nomatch hvideo
  rw [read_append hescape, stretchesFrom_chars hnormal]

/-- A line between the two codes is a stretch of its own. -/
theorem stretchesFrom_line {line : Text} (hescape : '\x1b' ∉ line) (hfeed : '\n' ∉ line)
    (seen rest : Text) :
    stretchesFrom .normal seen (read (Ansi.reverseVideo ++ line ++ Ansi.reset ++ rest)) =
      (stretchesFrom .normal [] (read rest)).map fun later => seen :: line :: later := by
  rw [List.append_assoc, List.append_assoc, read_code (by decide), read_append hescape,
    read_code (by decide), stretchesFrom, if_pos rfl, stretchesFrom_chars fun _ => hfeed,
    List.nil_append, stretchesFrom, if_pos rfl, Option.map_map]
  rfl

/-- Lines between the two codes are stretches, and so are the line feeds between them. -/
theorem stretchesFrom_ofLines {lines : List Text} (hne : lines ≠ [])
    (hlines : ∀ line ∈ lines, '\x1b' ∉ line ∧ '\n' ∉ line) (seen rest : Text) :
    stretchesFrom .normal seen (read (Text.ofLines
        (lines.map fun line => Ansi.reverseVideo ++ line ++ Ansi.reset) ++ rest)) =
      (stretchesFrom .normal [] (read rest)).map (seen :: lines.intersperse ['\n'] ++ ·) := by
  induction lines generalizing seen with
  | nil => contradiction
  | cons line later ih =>
    obtain ⟨⟨hescape, hfeed⟩, hlater⟩ := List.forall_mem_cons.mp hlines
    cases later with
    | nil =>
      rw [List.map_singleton, Text.ofLines_singleton]
      exact stretchesFrom_line hescape hfeed seen rest
    | cons next later =>
      have hbreak := ih (List.cons_ne_nil next later) hlater ['\n']
      rw [List.map_cons] at hbreak
      rw [List.map_cons, List.map_cons, Text.ofLines_cons_cons, List.append_assoc,
        stretchesFrom_line hescape hfeed, List.cons_append, read_cons (by decide), stretchesFrom,
        List.nil_append, hbreak, Option.map_map]
      rfl

end Terminal

namespace Ansi

/-- A highlight is written as the text in front of the span, the lines of the span with line feeds
between them, and the text behind the span. -/
theorem stretches?_highlight {h : Highlight} (hmapped : h.mapped = true)
    (hescape : '\x1b' ∉ h.before ++ h.inside ++ h.after) :
    Terminal.stretches? (highlight h) =
      some (h.before.dropReturns :: h.inside.dropReturns.lines.intersperse ['\n'] ++
        [h.after.dropReturns]) := by
  have hkept {text : Text} (htext : '\x1b' ∉ text) : '\x1b' ∉ text.dropReturns :=
    fun hmem => htext (List.mem_of_mem_filter hmem)
  simp only [List.mem_append, not_or] at hescape
  obtain ⟨⟨hbefore, hinside⟩, hafter⟩ := hescape
  have hlines : ∀ line ∈ h.inside.dropReturns.lines, '\x1b' ∉ line ∧ '\n' ∉ line :=
    fun line hline => ⟨fun hmem => hkept hinside (Text.mem_of_mem_line hline hmem),
      Text.not_mem_of_mem_splitOn hline⟩
  have hne : h.inside.dropReturns.lines ≠ [] := List.splitOn_ne_nil _ _
  have hback : Terminal.stretchesFrom .normal [] (Terminal.read (h.after.dropReturns ++ [])) =
      some [h.after.dropReturns] := by
    rw [Terminal.stretchesFrom_append (hkept hafter), Terminal.read]
    rfl
  rw [List.append_nil] at hback
  rw [highlight, if_pos hmapped, Terminal.stretches?, List.append_assoc,
    Terminal.stretchesFrom_append (hkept hbefore), List.nil_append, span,
    Terminal.stretchesFrom_ofLines hne hlines, hback, Option.map_some]

/-- **Every line of a span is in reverse video, and nothing else.** A terminal reads the output for
a span as text in front of it, the lines of the span with line feeds between them, and text behind
it. It shows the lines, but not the line feeds, in reverse video, and every line has the two codes,
even if it is empty. Without its codes the output is the source without carriage returns. -/
theorem reverses_span_lines {h : Highlight} (hmapped : h.mapped = true)
    (hescape : '\x1b' ∉ h.before ++ h.inside ++ h.after) :
    ∃ lines,
      Terminal.stretches? (highlight h) =
        some (h.before.dropReturns :: lines.intersperse ['\n'] ++ [h.after.dropReturns]) ∧
      Text.ofLines lines = h.inside.dropReturns ∧ (∀ line ∈ lines, '\n' ∉ line) ∧
      lines.length = h.inside.count '\n' + 1 ∧
      Terminal.codesIn (highlight h) =
        (List.replicate lines.length [reverseVideo, reset]).flatten ∧
      Terminal.shown (highlight h) = (h.before ++ h.inside ++ h.after).dropReturns := by
  have hread := stretches?_highlight hmapped hescape
  have hlines : Text.ofLines h.inside.dropReturns.lines = h.inside.dropReturns :=
    Text.ofLines_lines _
  have hcount : h.inside.dropReturns.lines.length = h.inside.count '\n' + 1 := by
    rw [Text.length_lines, Text.dropReturns, List.count_filter (by decide)]
  refine ⟨_, hread, hlines, fun line => Text.not_mem_of_mem_splitOn, hcount, ?_, ?_⟩
  · obtain ⟨count, hlength, hcodes⟩ := Terminal.codes_stretchesFrom hread
    simp only [List.length_append, List.length_cons, List.length_intersperse, List.length_nil,
      Terminal.Video.closing] at hlength
    obtain rfl : h.inside.dropReturns.lines.length = count := by omega
    exact hcodes
  · have hshown := Terminal.flatten_stretchesFrom hread
    rw [List.nil_append, ← Terminal.shown] at hshown
    rw [Text.ofLines, List.intercalate] at hlines
    rw [← hshown, List.flatten_append, List.flatten_cons, List.flatten_singleton, hlines,
      Text.dropReturns_append, Text.dropReturns_append]

/-- A span with empty lines at both ends, with carriage returns, and with what looks like the rest
of a code. -/
theorem reverses_span_lines_empty :
    let h : Highlight := ⟨"a[7m\r\n".toList, "\n[0m\r\n\r".toList, "m\n".toList, 0, true⟩
    '\x1b' ∉ h.before ++ h.inside ++ h.after ∧
      highlight h =
        "a[7m\n\x1b[7m\x1b[0m\n\x1b[7m[0m\x1b[0m\n\x1b[7m\x1b[0mm\n".toList ∧
      Terminal.stretches? (highlight h) =
        some ["a[7m\n".toList, [], ['\n'], "[0m".toList, ['\n'], [], "m\n".toList] ∧
      Terminal.codesIn (highlight h) =
        [reverseVideo, reset, reverseVideo, reset, reverseVideo, reset] ∧
      Terminal.shown (highlight h) = "a[7m\n\n[0m\nm\n".toList := by
  intro h
  have hescape : '\x1b' ∉ h.before ++ h.inside ++ h.after := by decide
  obtain ⟨lines, hread, hlines, hfeed, hlength, hcodes, hshown⟩ := reverses_span_lines rfl hescape
  have hthree : lines = [[], "[0m".toList, []] := by
    rw [← Text.lines_ofLines (by rintro rfl; contradiction) hfeed, hlines]
    decide +kernel
  subst hthree
  exact ⟨hescape, by decide +kernel, hread, hcodes, hshown.trans (by decide +kernel)⟩

end Ansi

end SpanViewer
