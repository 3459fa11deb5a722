import SpanViewer.Word.Class

/-!
# Annotated lines

A line of the derived form holds tokens between spaces, then `--`, then one chunk of metadata for
each token, with `|` between chunks. The second field of a chunk, between semicolons, is the span of
the token. Bad metadata makes a word unmapped and never loses it.
-/

namespace SpanViewer

/-- What separates the tokens of a line from their metadata. -/
def metadataMark : Text := ['-', '-']

/-- The span that a chunk of metadata names; none if it names no valid span. -/
def chunkPosition (chunk : Text) : Position :=
  match (chunk.splitOn ';')[1]? with
  | none => .unmapped
  | some field =>
    match Position.parse field with
    | .ok position => position
    | .error _ => .unmapped

/-- The spans named by the metadata of a line, one for each chunk. -/
def metadataPositions (metadata : Text) : List Position :=
  (metadata.splitOn '|').map chunkPosition

/-- The runs of characters between spaces. -/
def tokens (code : Text) : List Text :=
  (code.splitOn ' ').filter (· ≠ [])

/-- Pairs each token with the span at its place; tokens beyond the last span are unmapped. -/
def pairPositions (tokens : List Text) (positions : List Position) : List Word :=
  tokens.mapIdx fun i token => ⟨token, positions[i]?.getD .unmapped⟩

/-- The text of a comment line: what stands before the last metadata mark, or the line without its
line ending. -/
def commentText (line : Text) : Text :=
  match line.cutLast? metadataMark with
  | some (text, _) => text
  | none => line.dropEndWhile fun c => c = '\r' || c = '\n'

/-- The tokens of a line and the metadata behind the first mark. -/
def codeAndMetadata (line : Text) : Text × Option Text :=
  match line.trim.cutFirst? metadataMark with
  | some (code, metadata) => (code, some metadata)
  | none => (line.trim, none)

/-- The words of a line of the derived form; nothing for a blank line. -/
def parseLine? (marker line : Text) : Option (List Word) :=
  if line.trim = [] then
    none
  else if line.isComment then
    some [.unmapped (commentText line)]
  else
    let width := line.indentation
    let front := if width = 0 then [] else [.indentation marker width]
    let (code, metadata) := codeAndMetadata line
    let positions := (metadata.map metadataPositions).getD []
    some (front ++ pairPositions (tokens code.trim) positions)

end SpanViewer
