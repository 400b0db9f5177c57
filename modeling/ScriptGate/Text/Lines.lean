import ScriptGate.Text.Basic

/-!
# `ScriptGate.Text.Lines`: physical lines with byte offsets

A line feed ends a line and belongs to it. One carriage return in front
of the line feed belongs to the terminator too, and so does a carriage
return that ends the text. `chunks` cuts a text after every line feed,
`Line.ofChunk` separates content and terminator, and `lines` places the
results one after the other.

`lines_eq_place` gives the plain recursion behind the accumulator of
`lines`, and `flatten_chunks` says that the cut loses nothing.
-/

set_option autoImplicit false

namespace ScriptGate.Text

/-- One physical line: where it starts, what it says and how it ends. -/
structure Line where
  /-- Byte offset of the first character. -/
  start : Nat
  /-- The line without its terminator. -/
  content : Text
  /-- The terminator, empty on a last line that has none. -/
  ending : Text
  deriving DecidableEq, Repr

namespace Line

/-- Offset right after the content. -/
def contentEnd (l : Line) : Nat := l.start + byteLength l.content

/-- Offset right after the terminator, where the next line starts. -/
def next (l : Line) : Nat := l.contentEnd + byteLength l.ending

/-- The line as it stands in the text. -/
def text (l : Line) : Text := l.content ++ l.ending

/-- Separates a line, given backwards, from its terminator. -/
def cutEnding : Text → Text × Text
  | '\n' :: '\r' :: r => (r.reverse, ['\r', '\n'])
  | '\n' :: r => (r.reverse, ['\n'])
  | '\r' :: r => (r.reverse, ['\r'])
  | r => (r.reverse, [])

/-- The line at `start` whose whole text is `chunk`. -/
def ofChunk (start : Nat) (chunk : Text) : Line :=
  let (content, ending) := cutEnding chunk.reverse
  { start, content, ending }

end Line

/-- `t` cut after every line feed. -/
def chunks (t : Text) : List Text :=
  t.foldr
    (fun c cs =>
      if c = '\n' then [c] :: cs
      else match cs with
        | [] => [[c]]
        | l :: ls => (c :: l) :: ls)
    []

/-- The empty text has no chunk. -/
@[simp] theorem chunks_nil : chunks [] = [] := rfl

/-- A line feed is a chunk of its own in front of the others. Any other
character joins the first of them. -/
theorem chunks_cons (c : Char) (t : Text) :
    chunks (c :: t) =
      if c = '\n' then [c] :: chunks t
      else match chunks t with
        | [] => [[c]]
        | l :: ls => (c :: l) :: ls := rfl

/-- Cutting a text into chunks loses nothing. -/
theorem flatten_chunks (t : Text) : (chunks t).flatten = t := by
  induction t with
  | nil => rfl
  | cons c t ih =>
    rw [chunks_cons]
    split
    · simp [ih]
    · split
      · rename_i h
        rw [h] at ih
        simp_all
      · rename_i h
        rw [h] at ih
        simpa using ih

/-- The lines of consecutive chunks, the first of them at `start`. -/
def place (start : Nat) : List Text → List Line
  | [] => []
  | c :: cs => Line.ofChunk start c :: place (Line.ofChunk start c).next cs

/-- `place` with the finished lines kept reversed. -/
def placeAux (start : Nat) (acc : List Line) : List Text → List Line
  | [] => acc.reverse
  | c :: cs => placeAux (Line.ofChunk start c).next (Line.ofChunk start c :: acc) cs

/-- The physical lines of `t`. -/
def lines (t : Text) : List Line := placeAux 0 [] (chunks t)

/-- The accumulator holds the finished lines, and the rest is placed behind
them. -/
theorem placeAux_eq (start : Nat) (acc : List Line) (cs : List Text) :
    placeAux start acc cs = acc.reverse ++ place start cs := by
  induction cs generalizing start acc with
  | nil => simp [placeAux, place]
  | cons c cs ih => simp [placeAux, place, ih]

/-- The lines are the chunks, placed from the first byte on. -/
theorem lines_eq_place (t : Text) : lines t = place 0 (chunks t) := by
  simp [lines, placeAux_eq]

/-- The content of each line of `t`, where a carriage return counts as
part of a terminator only directly in front of a line feed. -/
def lineContents (t : Text) : List Text :=
  (chunks t).map fun chunk =>
    match chunk.reverse with
    | '\n' :: '\r' :: r => r.reverse
    | '\n' :: r => r.reverse
    | _ => chunk

/-- The number of the line that holds byte `offset`, counted from one.
Only line feeds before the offset count. -/
def lineOfOffset (t : Text) (offset : Nat) : Nat :=
  go offset 1 t
where
  /-- Walks the characters that start before the offset. -/
  go : Nat → Nat → Text → Nat
    | _, line, [] => line
    | n, line, c :: t =>
      if n = 0 then line
      else go (n - c.utf8Size) (if c = '\n' then line + 1 else line) t

end ScriptGate.Text
