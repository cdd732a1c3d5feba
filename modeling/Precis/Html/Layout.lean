import Precis.Html.Block

/-!
A page as plain text. The words of a paragraph are put on lines of a given number of columns, as
many on each as fit; the lines of a heading start with as many hash signs as its level says; an
empty line stands between two paragraphs. A page for which the lines are too narrow stays as it is.
-/

namespace Precis.Html

/-- Control characters, other than those that are white space, leave no trace. -/
def isShown (c : Char) : Bool :=
  Text.isSpace c || (Unicode.columns? c).isSome

/-- A word without columns is set together with the word behind it. -/
def joinNarrow : List Text → List Text
  | [] => []
  | word :: rest =>
      if columns word = 0 then
        match joinNarrow rest with
        | [] => [word]
        | next :: more => (word ++ next) :: more
      else word :: joinNarrow rest

/-- The longest front part of a word that a number of columns holds, and the part behind it. -/
def splitAtColumn (room : Nat) : Text → Text × Text
  | [] => ([], [])
  | c :: t =>
      let width := (Unicode.columns? c).getD 0
      if width ≤ room then
        let (front, back) := splitAtColumn (room - width) t
        (c :: front, back)
      else ([], c :: t)

theorem splitAtColumn_append (room : Nat) (t : Text) :
    (splitAtColumn room t).1 ++ (splitAtColumn room t).2 = t := by
  fun_induction splitAtColumn room t <;> simp_all

/-- The pieces of a word that fill lines of their own, and the last piece. There are none if a
character is wider than a line. -/
def breakWord? (width : Nat) (word : Text) : Option (List Text × Text) :=
  match _h : splitAtColumn width word with
  | (front, []) => some ([], front)
  | ([], _ :: _) => none
  | (c :: front, d :: back) =>
      (breakWord? width (d :: back)).map fun (pieces, last) => ((c :: front) :: pieces, last)
termination_by word.length
decreasing_by
  have := congrArg List.length (splitAtColumn_append width word)
  simp only [_h, List.length_append, List.length_cons] at this ⊢
  omega

def lineOf : List Text → List Text
  | [] => []
  | words => [Text.join [' '] words.reverse]

/-- Puts words on lines behind those of the open line, which takes the columns `used`. -/
def fillFrom? (width : Nat) (line : List Text) (used : Nat) : List Text → Option (List Text)
  | [] => some (lineOf line)
  | word :: rest =>
      let needed := used + columns word + if line.isEmpty then 0 else 1
      if needed ≤ width then fillFrom? width (word :: line) needed rest
      else match breakWord? width word with
        | none => none
        | some (pieces, last) =>
            (fillFrom? width [last] (columns last) rest).map fun lines =>
              lineOf line ++ pieces ++ lines

def fill? (width : Nat) (paragraph : Text) : Option (List Text) :=
  fillFrom? width [] 0 (joinNarrow (Text.words (paragraph.filter isShown)))

/-- An empty line stands before every group of lines but the first that has any. -/
def stack (groups : List (List Text)) : List Text :=
  match groups.dropWhile List.isEmpty with
  | [] => []
  | first :: rest => first ++ rest.flatMap ([] :: ·)

def Block.mark (block : Block) : Text :=
  match block.level with
  | 0 => []
  | n => List.replicate n '#' ++ [' ']

def Block.lines? (block : Block) (width : Nat) : Option (List Text) :=
  let inner := width - block.mark.length
  if inner < block.leastColumns then none
  else (block.paragraphs.mapM (fill? inner)).map fun groups => (stack groups).map (block.mark ++ ·)

/-- No page fits on lines of no width. -/
def render? (width : Nat) (page : Text) : Option Text :=
  if width = 0 then none
  else ((blocks page).mapM fun (block : Block) => block.lines? width).map fun groups =>
    (stack groups).flatMap fun line => line ++ ['\n']

def render (width : Nat) (page : Text) : Text :=
  (render? width page).getD page

end Precis.Html
