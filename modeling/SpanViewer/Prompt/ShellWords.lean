import SpanViewer.Text.Basic

/-!
# Shell words

A typed line is split into words as a shell does it: at spaces, tabs and line feeds, outside of
quotes, and without comments. A line with an open quote has no words.
-/

namespace SpanViewer

/-- Where in a line the reader of shell words stands. -/
inductive ShellContext where
  /-- Between two words. -/
  | between
  /-- In a comment, which ends with the line. -/
  | comment
  /-- In a word. -/
  | bare
  /-- In a word, between apostrophes. -/
  | single
  /-- In a word, between double quotes. -/
  | double
  deriving DecidableEq, Repr

/-- A character that separates words. -/
def isShellSeparator (c : Char) : Bool :=
  c = ' ' || c = '\t' || c = '\n'

/-- The characters that a backslash protects between double quotes. -/
def isProtectable (c : Char) : Bool :=
  c = '$' || c = '\x60' || c = '"' || c = '\\'

/-- The words of the rest of a line, where `word` holds the characters of an open word in reverse
order. -/
def shellWordsFrom : ShellContext → Text → Text → Option (List Text)
  | .between, _, [] => some []
  | .comment, _, [] => some []
  | .bare, word, [] => some [word.reverse]
  | .single, _, [] => none
  | .double, _, [] => none
  | .comment, word, c :: rest => shellWordsFrom (if c = '\n' then .between else .comment) word rest
  | .single, word, c :: rest =>
    if c = '\'' then shellWordsFrom .bare word rest else shellWordsFrom .single (c :: word) rest
  | .double, _, ['\\'] => none
  | .double, word, '\\' :: c :: rest =>
    if isProtectable c then shellWordsFrom .double (c :: word) rest
    else if c = '\n' then shellWordsFrom .double word rest
    else shellWordsFrom .double (c :: '\\' :: word) rest
  | .double, word, c :: rest =>
    if c = '"' then shellWordsFrom .bare word rest else shellWordsFrom .double (c :: word) rest
  | .bare, _, ['\\'] => none
  | .bare, word, '\\' :: c :: rest =>
    shellWordsFrom .bare (if c = '\n' then word else c :: word) rest
  | .bare, word, c :: rest =>
    if isShellSeparator c then (shellWordsFrom .between [] rest).map (word.reverse :: ·)
    else if c = '\'' then shellWordsFrom .single word rest
    else if c = '"' then shellWordsFrom .double word rest
    else shellWordsFrom .bare (c :: word) rest
  | .between, _, ['\\'] => none
  | .between, _, '\\' :: c :: rest => shellWordsFrom .bare (if c = '\n' then [] else [c]) rest
  | .between, _, c :: rest =>
    if isShellSeparator c then shellWordsFrom .between [] rest
    else if c = '#' then shellWordsFrom .comment [] rest
    else if c = '\'' then shellWordsFrom .single [] rest
    else if c = '"' then shellWordsFrom .double [] rest
    else shellWordsFrom .bare [c] rest

/-- The words of a line; nothing if a quote stays open or a backslash ends the line. -/
def shellWords? (line : Text) : Option (List Text) :=
  shellWordsFrom .between [] line

end SpanViewer
