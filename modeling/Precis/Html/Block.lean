import Precis.Html.Event
import Precis.Unicode.Columns

/-!
The blocks of a page: its headings, each with all that it holds, and the paragraphs outside of them.
Text that stands in no element is a paragraph as well, unless it is blank.
-/

namespace Precis.Html

/-- Level zero is no heading. -/
structure Block where
  level : Nat
  paragraphs : List Text
  /-- The columns that a line of the block has at least. -/
  leastColumns : Nat

/-- The paragraphs of a stretch of events behind the text of the open paragraph. A paragraph without
any text is none, but a blank text makes one. -/
def paragraphsFrom (paragraph : Option Text) : List Event → List Text
  | [] => paragraph.toList
  | .startParagraph :: .endParagraph :: rest => paragraphsFrom paragraph rest
  | .startParagraph :: rest => paragraph.toList ++ paragraphsFrom (some []) rest
  | .endParagraph :: rest => paragraph.toList ++ paragraphsFrom none rest
  | .run t :: rest | .title t :: rest =>
      match paragraph with
      | some u => paragraphsFrom (some (u ++ t)) rest
      | none => paragraphsFrom (if t.isBlank then none else some t) rest
  | .startHeading _ :: rest | .endHeading :: rest => paragraphsFrom paragraph rest

def paragraphs (stretch : List Event) : List Text :=
  paragraphsFrom none stretch

def columns (t : Text) : Nat :=
  t.foldl (fun n c => n + (Unicode.columns? c).getD 0) 0

/-- The columns of a run on one line, with a space before it if it starts with white space. -/
def runColumns (t : Text) : Nat :=
  columns t.collapse + if t.head?.any Text.isSpace then 1 else 0

/-- A run may be broken into pieces of three columns. -/
def breakColumns : Nat :=
  3

def Event.leastColumns : Event → Nat
  | .run t | .title t => min breakColumns (runColumns t)
  | _ => 0

def stretchBlocks (level : Option Nat) (stretch : List Event) : List Block :=
  match level with
  | none => (paragraphs stretch).map fun t => ⟨0, [t], 0⟩
  | some level =>
      [⟨level, paragraphs stretch, stretch.foldl (fun n e => max n e.leastColumns) 0⟩]

/-- `level` is that of the open heading and `stretch` what came since, the last event first. -/
def blocksFrom (level : Option Nat) (stretch : List Event) : List Event → List Block
  | [] => stretchBlocks level stretch.reverse
  | .startHeading next :: rest =>
      stretchBlocks level stretch.reverse ++ blocksFrom (some next) [] rest
  | .endHeading :: rest => stretchBlocks level stretch.reverse ++ blocksFrom none [] rest
  | event :: rest => blocksFrom level (event :: stretch) rest

def blocks (page : Text) : List Block :=
  blocksFrom none [] (events page)

end Precis.Html
