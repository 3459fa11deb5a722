import SpanViewer.Proofs.Render.Markup
import SpanViewer.Proofs.Text.Occurrence
import SpanViewer.Proofs.Text.SameLine

/-!
# Decoded markup

A browser pane keeps the text that it is given. Decoding the entities of escaped text in one pass
gives the text back without its carriage returns, whatever looks like an entity or a tag in it. The
element of a span stands at one place in the output only, so the texts in front of the span, in it
and behind it can be told apart.
-/

namespace SpanViewer.Html

/-- Decodes the five entities in one pass. What is no entity stands for itself. -/
def decode : Text → Text
  | '&' :: 'a' :: 'm' :: 'p' :: ';' :: rest => '&' :: decode rest
  | '&' :: 'l' :: 't' :: ';' :: rest => '<' :: decode rest
  | '&' :: 'g' :: 't' :: ';' :: rest => '>' :: decode rest
  | '&' :: 'q' :: 'u' :: 'o' :: 't' :: ';' :: rest => '"' :: decode rest
  | '&' :: '#' :: '3' :: '9' :: ';' :: rest => '\'' :: decode rest
  | c :: rest => c :: decode rest
  | [] => []

/-- Another character than an ampersand stands for itself. -/
theorem decode_cons {c : Char} (hc : c ≠ '&') (rest : Text) :
    decode (c :: rest) = c :: decode rest := by
  simp [decode, hc]

/-- An escaped character is decoded to itself, if it is no carriage return. -/
theorem decode_escapeChar_append (c : Char) (rest : Text) :
    decode (escapeChar c ++ rest) = Text.dropReturns [c] ++ decode rest := by
  by_cases hmeaning : c ∈ ['<', '>', '&', '"', '\'', '\r']
  · simp only [List.mem_cons, List.not_mem_nil, or_false] at hmeaning
    rcases hmeaning with rfl | rfl | rfl | rfl | rfl | rfl <;> rfl
  · have hne {other : Char} (hother : other ∈ ['<', '>', '&', '"', '\'', '\r']) : c ≠ other := by
      rintro rfl
      exact hmeaning hother
    have hreturn : c ≠ '\r' := hne (by decide)
    have hkept : Text.dropReturns [c] = [c] := by simp [Text.dropReturns, hreturn]
    rw [escapeChar_of_not_mem hmeaning, hkept]
    exact decode_cons (hne (by decide)) rest

/-- Escaped text is decoded to the text without its carriage returns. -/
theorem decode_escape (text : Text) : decode (escape text) = text.dropReturns := by
  induction text with
  | nil => rfl
  | cons c rest ih =>
    have hsplit : Text.dropReturns (c :: rest) = Text.dropReturns [c] ++ Text.dropReturns rest :=
      Text.dropReturns_append [c] rest
    rw [escape] at ih
    rw [escape, List.flatMap_cons, decode_escapeChar_append, ih, hsplit]

/-- Texts without carriage returns are escaped in different ways. -/
theorem eq_of_escape_eq {text other : Text} (htext : '\r' ∉ text) (hother : '\r' ∉ other)
    (hescape : escape text = escape other) : text = other := by
  have hkept {text : Text} (htext : '\r' ∉ text) : text.dropReturns = text := by
    refine List.filter_eq_self.mpr fun c hc => ?_
    simpa using ne_of_mem_of_not_mem hc htext
  have hdecode := congrArg decode hescape
  rwa [decode_escape, decode_escape, hkept htext, hkept hother] at hdecode

/-- Escaped text has no bracket in which a tag could begin. -/
theorem bracket_not_mem_escape (text : Text) : '<' ∉ escape text := by
  intro hmem
  obtain ⟨c, -, hc⟩ := List.mem_flatMap.mp hmem
  by_cases hmeaning : c ∈ ['<', '>', '&', '"', '\'', '\r']
  · simp only [List.mem_cons, List.not_mem_nil, or_false] at hmeaning
    rcases hmeaning with rfl | rfl | rfl | rfl | rfl | rfl <;> exact absurd hc (by decide)
  · rw [escapeChar_of_not_mem hmeaning] at hc
    obtain rfl := List.mem_singleton.mp hc
    exact hmeaning (by decide)

section
variable {front content back front' content' back' : Text}

/-- A text is cut in one way only in front of its first bracket. -/
theorem eq_of_append_bracket_eq (hfront : '<' ∉ front) (hfront' : '<' ∉ front')
    (heq : front ++ '<' :: back = front' ++ '<' :: back') : front = front' ∧ back = back' := by
  have hcut := Text.cutFirst?_of_not_mem hfront back
  rw [heq, Text.cutFirst?_of_not_mem hfront' back'] at hcut
  obtain ⟨rfl, rfl⟩ := Prod.mk.inj (Option.some.inj hcut)
  exact ⟨rfl, rfl⟩

/-- The element of a span begins with a bracket, and another one stands behind its content. -/
theorem append_element_eq (front content back : Text) :
    front ++ element "highlight".toList content ++ back =
      front ++ '<' :: ("span class=\"highlight\">".toList ++
        (content ++ '<' :: ("/span>".toList ++ back))) := by
  have hopening : "span class=\"".toList ++ "highlight".toList ++ ['"'] ++ ['>'] =
      "span class=\"highlight\">".toList := by decide
  have hclosing : "/span".toList ++ ['>'] = "/span>".toList := by decide
  rw [element_eq, ← hopening, ← hclosing]
  simp only [List.append_assoc, List.cons_append]

/-- The element of a span has two brackets in which a tag begins. -/
theorem count_append_element (front content back : Text) :
    (front ++ element "highlight".toList content ++ back).count '<' =
      front.count '<' + content.count '<' + back.count '<' + 2 := by
  have hopening : "span class=\"highlight\">".toList.count '<' = 0 := by decide
  have hclosing : "/span>".toList.count '<' = 0 := by decide
  rw [append_element_eq]
  simp only [List.count_append, List.count_cons_self, hopening, hclosing]
  omega

/-- Around texts without brackets the element of a span is found at one place only. -/
theorem eq_of_append_element_eq (hfront : '<' ∉ front) (hcontent : '<' ∉ content)
    (hback : '<' ∉ back)
    (heq : front ++ element "highlight".toList content ++ back =
      front' ++ element "highlight".toList content' ++ back') :
    front = front' ∧ content = content' ∧ back = back' := by
  -- The other texts have no brackets either, since the element accounts for both that there are.
  have hcount := congrArg (List.count '<') heq
  rw [count_append_element, count_append_element, List.count_eq_zero.mpr hfront,
    List.count_eq_zero.mpr hcontent, List.count_eq_zero.mpr hback] at hcount
  have hfront' : '<' ∉ front' := List.count_eq_zero.mp (by omega)
  have hcontent' : '<' ∉ content' := List.count_eq_zero.mp (by omega)
  rw [append_element_eq, append_element_eq] at heq
  obtain ⟨rfl, hrest⟩ := eq_of_append_bracket_eq hfront hfront' heq
  obtain ⟨rfl, hbehind⟩ :=
    eq_of_append_bracket_eq hcontent hcontent' (List.append_cancel_left hrest)
  exact ⟨rfl, rfl, List.append_cancel_left hbehind⟩

end

/-- There is one way to see a span in the output: between the texts that were escaped. -/
theorem highlight_eq_append_element_iff {h : Highlight} (hmapped : h.mapped = true)
    {front content back : Text} :
    highlight h = front ++ element "highlight".toList content ++ back ↔
      front = escape h.before ∧ content = escape h.dedented ∧ back = escape h.after := by
  rw [highlight, if_pos hmapped]
  constructor
  · intro heq
    obtain ⟨rfl, rfl, rfl⟩ := eq_of_append_element_eq (bracket_not_mem_escape h.before)
      (bracket_not_mem_escape h.dedented) (bracket_not_mem_escape h.after) heq
    exact ⟨rfl, rfl, rfl⟩
  · rintro ⟨rfl, rfl, rfl⟩
    rfl

/-- Without a span none is seen in the output. -/
theorem highlight_ne_append_element {h : Highlight} (hmapped : h.mapped = false)
    (front content back : Text) :
    highlight h ≠ front ++ element "highlight".toList content ++ back := by
  intro heq
  have hunmapped : highlight h = escape h.before := by
    rw [highlight, hmapped]
    rfl
  have hcount := congrArg (List.count '<') heq
  rw [hunmapped, count_append_element, List.count_eq_zero.mpr (bracket_not_mem_escape h.before)]
    at hcount
  omega

/-- **Markup keeps the text.** Decoding the entities of an escaped text in one pass gives the text
without its carriage returns, so no two texts without carriage returns are escaped alike. A span is
seen at exactly one place in the output, and the decoded texts in front of it, in it and behind it
are those of the highlight, dedented as it is shown and without carriage returns. Without a span
none is seen, and the whole output is decoded to the source. -/
theorem decode_output :
    (∀ text, decode (escape text) = text.dropReturns) ∧
      (∀ text other, '\r' ∉ text → '\r' ∉ other → escape text = escape other → text = other) ∧
      (∀ h : Highlight, h.mapped = true →
        ∃ front content back,
          (∀ front' content' back',
            highlight h = front' ++ element "highlight".toList content' ++ back' ↔
              front' = front ∧ content' = content ∧ back' = back) ∧
          decode front = h.before.dropReturns ∧ decode content = h.dedented.dropReturns ∧
          decode back = h.after.dropReturns) ∧
      ∀ h : Highlight, h.mapped = false →
        (∀ front content back,
          highlight h ≠ front ++ element "highlight".toList content ++ back) ∧
        decode (highlight h) = h.before.dropReturns := by
  refine ⟨decode_escape, fun text other => eq_of_escape_eq, fun h hmapped => ?_,
    fun h hmapped => ⟨highlight_ne_append_element hmapped, ?_⟩⟩
  · exact ⟨escape h.before, escape h.dedented, escape h.after,
      fun front content back => highlight_eq_append_element_iff hmapped,
      decode_escape h.before, decode_escape h.dedented, decode_escape h.after⟩
  · rw [highlight, hmapped]
    exact decode_escape h.before

/-- A source that looks like markup and like entities, with a span in it that looks like a tag. -/
theorem decode_output_entities :
    let h : Highlight :=
      ⟨"&amp;lt;\r\n  ".toList, "</span>\r\n   \"&#39".toList,
        ";<span class=\"highlight\">".toList, 2, true⟩
    let front : Text := "&amp;amp;lt;\n  ".toList
    let content : Text := "&lt;/span&gt;\n &quot;&amp;#39".toList
    let back : Text := ";&lt;span class=&quot;highlight&quot;&gt;".toList
    highlight h =
        front ++ "<span class=\"highlight\">".toList ++ content ++ "</span>".toList ++ back ∧
      decode front = "&amp;lt;\n  ".toList ∧ decode content = "</span>\n \"&#39".toList ∧
      decode back = h.after ∧
      escape "&lt;".toList ≠ escape ['<'] ∧
      decode (highlight { h with mapped := false }) = "&amp;lt;\n  ".toList := by
  intro h front content back
  obtain ⟨-, hinjective, hmapped, hunmapped⟩ := decode_output
  obtain ⟨front', content', back', hspan, hfront, hcontent, hback⟩ := hmapped h rfl
  have hshown : highlight h = front ++ element "highlight".toList content ++ back := by
    decide +kernel
  obtain ⟨rfl, rfl, rfl⟩ := (hspan front content back).mp hshown
  refine ⟨by rw [hshown]; decide +kernel, ?_, ?_, ?_, ?_, ?_⟩
  · rw [hfront]
    decide +kernel
  · rw [hcontent]
    decide +kernel
  · rw [hback]
    decide +kernel
  · exact fun heq => absurd (hinjective _ _ (by decide) (by decide) heq) (by decide)
  · rw [(hunmapped { h with mapped := false } rfl).2]
    decide +kernel

end SpanViewer.Html
