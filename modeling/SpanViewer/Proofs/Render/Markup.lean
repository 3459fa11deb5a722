import SpanViewer.Render.Target

/-!
# Markup as a browser reads it

A browser reads markup piece by piece: tags between angle brackets, references between an ampersand
and a semicolon, and characters that stand for themselves. Whatever the source, the words and the
indent marker hold, the tags that it sees in the output are those of one element for a span and of
one element for each word.
-/

namespace SpanViewer

namespace Markup

/-- A piece of markup. -/
inductive Piece where
  /-- A tag, by what stands between its angle brackets. -/
  | tag (body : Text)
  /-- A reference to a character, by its name. -/
  | reference (name : Text)
  /-- A character that stands for itself. -/
  | char (c : Char)
  deriving DecidableEq, Repr

namespace Piece

/-- The piece as it is written. -/
def text : Piece → Text
  | tag body => '<' :: body ++ ['>']
  | reference name => '&' :: name ++ [';']
  | char c => [c]

/-- What the piece has between its angle brackets, if it is a tag. -/
def tag? : Piece → Option Text
  | tag body => some body
  | _ => none

end Piece

/-- Where in markup a reader stands, with what it has read of an open piece in reverse order. -/
inductive Context where
  /-- Between two pieces. -/
  | between
  /-- In a tag. -/
  | tag (body : Text)
  /-- In a reference. -/
  | reference (name : Text)
  deriving DecidableEq, Repr

/-- What a reader has seen of an open piece. -/
def Context.text : Context → Text
  | between => []
  | tag body => '<' :: body.reverse
  | reference name => '&' :: name.reverse

/-- The pieces of the rest of some markup; nothing if a bracket or a quote is out of place, or if the
last piece stays open. -/
def readFrom : Context → Text → Option (List Piece)
  | .between, [] => some []
  | .tag _, [] => none
  | .reference _, [] => none
  | .between, c :: rest =>
    if c = '<' then readFrom (.tag []) rest
    else if c = '&' then readFrom (.reference []) rest
    else if c = '>' ∨ c = '"' ∨ c = '\'' then none
    else (readFrom .between rest).map (.char c :: ·)
  | .tag body, c :: rest =>
    if c = '>' then (readFrom .between rest).map (.tag body.reverse :: ·)
    else if c = '<' then none
    else readFrom (.tag (c :: body)) rest
  | .reference name, c :: rest =>
    if c = ';' then (readFrom .between rest).map (.reference name.reverse :: ·)
    else readFrom (.reference (c :: name)) rest

/-- The pieces of a text that is markup. -/
def read? (text : Text) : Option (List Piece) :=
  readFrom .between text

/-- A reader loses nothing. -/
theorem flatMap_text_of_readFrom {context : Context} {text : Text} {pieces : List Piece}
    (hread : readFrom context text = some pieces) :
    pieces.flatMap Piece.text = context.text ++ text := by
  fun_induction readFrom context text generalizing pieces with
  | case1 =>
    obtain rfl := Option.some.inj hread
    rfl
  | case2 | case3 | case6 | case9 => contradiction
  | case4 rest ih | case5 rest _ ih =>
    rw [ih hread]
    rfl
  | case7 c rest hopen hampersand hquote ih =>
    obtain ⟨later, hlater, rfl⟩ := Option.map_eq_some_iff.mp hread
    rw [List.flatMap_cons, ih hlater]
    rfl
  | case8 body rest ih | case11 name rest ih =>
    obtain ⟨later, hlater, rfl⟩ := Option.map_eq_some_iff.mp hread
    rw [List.flatMap_cons, ih hlater]
    simp [Piece.text, Context.text]
  | case10 body c rest hclose hopen ih | case12 name c rest hclose ih =>
    rw [ih hread]
    simp [Context.text]

/-- Markup is read on behind markup. -/
theorem readFrom_append {context : Context} {text : Text} {pieces : List Piece}
    (hread : readFrom context text = some pieces) (later : Text) :
    readFrom context (text ++ later) = (read? later).map (pieces ++ ·) := by
  fun_induction readFrom context text generalizing pieces with
  | case1 =>
    obtain rfl := Option.some.inj hread
    simp [read?]
  | case2 | case3 | case6 | case9 => contradiction
  | case4 rest ih | case5 rest _ ih =>
    rw [List.cons_append, readFrom]
    exact ih hread
  | case7 c rest hopen hampersand hquote ih =>
    obtain ⟨behind, hbehind, rfl⟩ := Option.map_eq_some_iff.mp hread
    rw [List.cons_append, readFrom, if_neg hopen, if_neg hampersand, if_neg hquote, ih hbehind,
      Option.map_map]
    rfl
  | case8 body rest ih | case11 name rest ih =>
    obtain ⟨behind, hbehind, rfl⟩ := Option.map_eq_some_iff.mp hread
    rw [List.cons_append, readFrom, if_pos rfl, ih hbehind, Option.map_map]
    rfl
  | case10 body c rest hclose hopen ih =>
    rw [List.cons_append, readFrom, if_neg hclose, if_neg hopen, ih hread]
  | case12 name c rest hclose ih =>
    rw [List.cons_append, readFrom, if_neg hclose, ih hread]

/-- A reference is read up to its semicolon. -/
theorem readFrom_reference {name : Text} (hname : ';' ∉ name) (seen : Text) :
    readFrom (.reference seen) (name ++ [';']) = some [.reference (seen.reverse ++ name)] := by
  induction name generalizing seen with
  | nil => simp [readFrom]
  | cons c name ih =>
    obtain ⟨hc, hrest⟩ := not_or.mp (mt List.mem_cons.mpr hname)
    rw [List.cons_append, readFrom, if_neg (Ne.symm hc), ih hrest]
    simp

/-- A tag is read up to its closing bracket. -/
theorem readFrom_tag {body : Text} (hopen : '<' ∉ body) (hclose : '>' ∉ body) (seen : Text) :
    readFrom (.tag seen) (body ++ ['>']) = some [.tag (seen.reverse ++ body)] := by
  induction body generalizing seen with
  | nil => simp [readFrom]
  | cons c body ih =>
    obtain ⟨hc, hrest⟩ := not_or.mp (mt List.mem_cons.mpr hopen)
    obtain ⟨hc', hrest'⟩ := not_or.mp (mt List.mem_cons.mpr hclose)
    rw [List.cons_append, readFrom, if_neg (Ne.symm hc'), if_neg (Ne.symm hc), ih hrest hrest']
    simp

/-- A character without a meaning in markup is read as itself. -/
theorem read?_char {c : Char} (hc : c ∉ ['<', '>', '&', '"', '\'']) :
    read? [c] = some [.char c] := by
  simp only [List.mem_cons, List.not_mem_nil, or_false, not_or] at hc
  obtain ⟨hopen, hclose, hampersand, hdouble, hsingle⟩ := hc
  simp [read?, readFrom, hopen, hclose, hampersand, hdouble, hsingle]

/-- A tag is read as one. -/
theorem read?_tag {body : Text} (hopen : '<' ∉ body) (hclose : '>' ∉ body) :
    read? ('<' :: body ++ ['>']) = some [.tag body] :=
  readFrom_tag hopen hclose []

/-- The text is markup with these tags, in this order. It holds no other angle bracket, no quote
outside of a tag, and no ampersand but those that start one of the references. -/
def IsMarkup (references tags : List Text) (text : Text) : Prop :=
  ∃ pieces, read? text = some pieces ∧ pieces.flatMap Piece.text = text ∧
    pieces.filterMap Piece.tag? = tags ∧ ∀ name, .reference name ∈ pieces → name ∈ references

namespace IsMarkup

variable {references : List Text}

/-- What a reader has read is markup with the tags that it saw. -/
theorem of_read? {text : Text} {pieces : List Piece} (hread : read? text = some pieces)
    (hreferences : ∀ name, .reference name ∈ pieces → name ∈ references) :
    IsMarkup references (pieces.filterMap Piece.tag?) text :=
  ⟨pieces, hread, flatMap_text_of_readFrom hread, rfl, hreferences⟩

/-- The empty text is markup. -/
theorem nil : IsMarkup references [] [] :=
  of_read? (show read? [] = some [] from rfl) (by simp)

/-- Markup behind markup is markup. -/
theorem append {tags later : List Text} {text behind : Text} (htext : IsMarkup references tags text)
    (hbehind : IsMarkup references later behind) :
    IsMarkup references (tags ++ later) (text ++ behind) := by
  obtain ⟨pieces, hread, -, rfl, hreferences⟩ := htext
  obtain ⟨others, hothers, -, rfl, hnames⟩ := hbehind
  have happend : read? (text ++ behind) = some (pieces ++ others) := by
    rw [read?, readFrom_append hread, hothers, Option.map_some]
  rw [← List.filterMap_append]
  refine of_read? happend fun name hname => ?_
  rcases List.mem_append.mp hname with hname | hname
  · exact hreferences name hname
  · exact hnames name hname

/-- A character without a meaning in markup stands for itself. -/
theorem char {c : Char} (hc : c ∉ ['<', '>', '&', '"', '\'']) : IsMarkup references [] [c] :=
  of_read? (read?_char hc) (by simp)

/-- A reference to a character has no tag. -/
theorem reference (name : Text) (hname : name ∈ references) (hend : ';' ∉ name) :
    IsMarkup references [] ('&' :: name ++ [';']) := by
  have hread : read? ('&' :: name ++ [';']) = some [.reference name] := readFrom_reference hend []
  refine of_read? hread fun other hother => ?_
  obtain rfl := Piece.reference.inj (List.mem_singleton.mp hother)
  exact hname

/-- A tag is one. -/
theorem tag {body : Text} (hopen : '<' ∉ body) (hclose : '>' ∉ body) :
    IsMarkup references [body] ('<' :: body ++ ['>']) :=
  of_read? (read?_tag hopen hclose) (by simp)

/-- More references may stand in markup. -/
theorem mono {others tags : List Text} {text : Text} (hsubset : references ⊆ others)
    (htext : IsMarkup references tags text) : IsMarkup others tags text := by
  obtain ⟨pieces, hread, -, rfl, hreferences⟩ := htext
  exact of_read? hread fun name hname => hsubset (hreferences name hname)

/-- Pieces of content with markup between them are content. -/
theorem intercalate {separator : Text} (hseparator : IsMarkup references [] separator)
    {texts : List Text} (htexts : ∀ text ∈ texts, IsMarkup references [] text) :
    IsMarkup references [] (separator.intercalate texts) := by
  induction texts with
  | nil => exact nil
  | cons text rest ih =>
    obtain ⟨htext, hrest⟩ := List.forall_mem_cons.mp htexts
    cases rest with
    | nil => simpa using htext
    | cons next rest =>
      rw [List.intercalate_cons_cons]
      exact (htext.append hseparator).append (ih hrest)

end IsMarkup

end Markup

namespace Html

open Markup

/-- The references that stand for characters with a meaning in markup. -/
def characterReferences : List Text :=
  ["amp".toList, "lt".toList, "gt".toList, "quot".toList, "#39".toList]

/-- The references that may stand in a word: a kept space has one of its own. -/
def wordReferences : List Text :=
  "nbsp".toList :: characterReferences

/-- The tags of an element of a class, one opening and one closing. -/
def elementTags (name : Text) : List Text :=
  ["span class=\"".toList ++ name ++ ['"'], "/span".toList]

/-- A character without a meaning in markup is not escaped, unless it is a carriage return. -/
theorem escapeChar_of_not_mem {c : Char} (hc : c ∉ ['<', '>', '&', '"', '\'', '\r']) :
    escapeChar c = [c] := by
  simp only [List.mem_cons, List.not_mem_nil, or_false, not_or] at hc
  obtain ⟨hopen, hclose, hampersand, hdouble, hsingle, hreturn⟩ := hc
  simp [escapeChar, hopen, hclose, hampersand, hdouble, hsingle, hreturn]

/-- An escaped character is content. -/
theorem isMarkup_escapeChar (c : Char) : IsMarkup characterReferences [] (escapeChar c) := by
  unfold escapeChar
  split
  · exact .reference "amp".toList (by decide) (by decide)
  split
  · exact .reference "lt".toList (by decide) (by decide)
  split
  · exact .reference "gt".toList (by decide) (by decide)
  split
  · exact .reference "quot".toList (by decide) (by decide)
  split
  · exact .reference "#39".toList (by decide) (by decide)
  split
  · exact .nil
  · apply IsMarkup.char
    simp_all

/-- Escaped text is content. -/
theorem isMarkup_escape (text : Text) : IsMarkup characterReferences [] (escape text) := by
  induction text with
  | nil => exact .nil
  | cons c rest ih => exact (isMarkup_escapeChar c).append ih

/-- An element stands between its two tags. -/
theorem element_eq (name content : Text) :
    element name content =
      '<' :: ("span class=\"".toList ++ name ++ ['"']) ++ ['>'] ++ content ++
        ('<' :: "/span".toList ++ ['>']) := by
  have hfront : "<span class=\"".toList = ['<'] ++ "span class=\"".toList := by decide
  have hmiddle : "\">".toList = ['"'] ++ ['>'] := by decide
  have hback : "</span>".toList = ['<'] ++ "/span".toList ++ ['>'] := by decide
  unfold element
  simp only [hfront, hmiddle, hback]
  simp only [List.append_assoc, List.cons_append, List.nil_append]

/-- An element around content has its two tags. -/
theorem isMarkup_element {references : List Text} {name content : Text} (hopen : '<' ∉ name)
    (hclose : '>' ∉ name) (hcontent : IsMarkup references [] content) :
    IsMarkup references (elementTags name) (element name content) := by
  have hopening : IsMarkup references ["span class=\"".toList ++ name ++ ['"']]
      ('<' :: ("span class=\"".toList ++ name ++ ['"']) ++ ['>']) := by
    apply IsMarkup.tag
    · simp [hopen]
    · simp [hclose]
  have hclosing : IsMarkup references ["/span".toList] ('<' :: "/span".toList ++ ['>']) :=
    .tag (by decide) (by decide)
  have helement := (hopening.append hcontent).append hclosing
  rw [List.append_nil] at helement
  rwa [element_eq]

/-- The only tags around a span are those of its element. -/
theorem isMarkup_highlight (h : Highlight) :
    IsMarkup characterReferences (if h.mapped then elementTags "highlight".toList else [])
      (highlight h) := by
  unfold highlight
  cases h.mapped with
  | false => exact isMarkup_escape h.before
  | true =>
    have helement : IsMarkup characterReferences (elementTags "highlight".toList)
        (element "highlight".toList (escape h.dedented)) :=
      isMarkup_element (by decide) (by decide) (isMarkup_escape h.dedented)
    have hspan := ((isMarkup_escape h.before).append helement).append (isMarkup_escape h.after)
    simpa using hspan

/-- No class has an angle bracket in its name. -/
theorem bracket_not_mem_name (kind : WordClass) : '<' ∉ kind.name ∧ '>' ∉ kind.name := by
  cases kind <;> decide

/-- The only tags of a word are those of its element, whatever the indent marker. -/
theorem isMarkup_word (marker : Text) (w : Word) :
    IsMarkup wordReferences (elementTags w.classify.name) (word marker w) := by
  have hescape (text : Text) : IsMarkup wordReferences [] (escape text) :=
    (isMarkup_escape text).mono (List.subset_cons_self _ _)
  have hspace : IsMarkup wordReferences [] keptSpace :=
    .reference "nbsp".toList (by decide) (by decide)
  obtain ⟨hopen, hclose⟩ := bracket_not_mem_name w.classify
  refine isMarkup_element hopen hclose ?_
  split
  · exact hescape w.text
  · exact hspace.intercalate (List.forall_mem_map.mpr fun piece _ => hescape piece)

/-- The tags of a line are those of one element for each word, in the order of the words. -/
theorem isMarkup_line (marker : Text) (words : List Word) :
    IsMarkup wordReferences (words.flatMap fun w => elementTags w.classify.name)
      ((Target.browser marker).line words) := by
  induction words with
  | nil => exact .nil
  | cons w rest ih =>
    have hword := isMarkup_word marker w
    cases rest with
    | nil => simpa [Target.line, Target.word] using hword
    | cons next rest =>
      have hbetween : IsMarkup wordReferences []
          (if w.isIndentation marker then [] else [' ']) := by
        split
        · exact .nil
        · exact .char (by decide)
      have hline := (hword.append hbetween).append ih
      rwa [List.append_nil] at hline

/-- Output for a browser holds the markup of its elements and no other: one element for a span, if
there is one, and one for each word of a line, by the class of the word. Nothing that stands in the
source, in the words or in the indent marker is read as a tag, as a reference or as a quote. -/
theorem isMarkup_output (marker : Text) (h : Highlight) (words : List Word) :
    IsMarkup characterReferences (if h.mapped then elementTags "highlight".toList else [])
        ((Target.browser marker).highlight h) ∧
      IsMarkup wordReferences (words.flatMap fun w => elementTags w.classify.name)
        ((Target.browser marker).line words) :=
  ⟨isMarkup_highlight h, isMarkup_line marker words⟩

end Html

end SpanViewer
