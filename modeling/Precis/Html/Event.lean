import Precis.Html.Token

/-!
The events of a page: its runs of text, and where paragraphs and headings start and end. Tags that a
page may leave out are made good: a paragraph ends where the next one starts, headings are not
nested, and all that is open ends with the page. A heading may hold paragraphs.
-/

namespace Precis.Html

inductive Event where
  | run (t : Text)
  /-- The text of a title in the body of the page, where it is text like any other. -/
  | title (t : Text)
  | startParagraph
  | endParagraph
  | startHeading (level : Nat)
  | endHeading

def headingLevel? (name : Text) : Option Nat :=
  if name = ['h', '1'] then some 1
  else if name = ['h', '2'] then some 2
  else if name = ['h', '3'] then some 3
  else none

def paragraphName : Text :=
  ['p']

structure Place where
  heading : Bool
  paragraph : Bool

def Place.leaveParagraph (place : Place) : List Event :=
  if place.paragraph then [.endParagraph] else []

def Place.leave (place : Place) : List Event :=
  place.leaveParagraph ++ if place.heading then [.endHeading] else []

/-- What a token does, and the place behind it. The end of a paragraph that is not open is the end
of an empty one; null characters are no text. -/
def Place.step (place : Place) : Token → List Event × Place
  | .text t =>
      match t.filter (· != '\x00') with
      | [] => ([], place)
      | run => ([.run run], place)
  | .title t =>
      match t with
      | [] => ([], place)
      | t => ([.title (t.map fun c => if c = '\x00' then '\uFFFD' else c)], place)
  | .startTag name =>
      if name = paragraphName then
        (place.leaveParagraph ++ [.startParagraph], ⟨place.heading, true⟩)
      else match headingLevel? name with
        | some level => (place.leave ++ [.startHeading level], ⟨true, false⟩)
        | none => ([], place)
  | .endTag name =>
      if name = paragraphName then
        if place.paragraph then ([.endParagraph], ⟨place.heading, false⟩)
        else ([.startParagraph, .endParagraph], place)
      else if (headingLevel? name).isSome && place.heading then (place.leave, ⟨false, false⟩)
      else ([], place)

def Place.events (place : Place) : List Token → List Event
  | [] => place.leave
  | token :: rest =>
      let (found, next) := place.step token
      found ++ next.events rest

/-- Joins runs between which nothing happens. -/
def joinRuns : List Event → List Event
  | [] => []
  | .run t :: rest =>
      match joinRuns rest with
      | .run u :: more => .run (t ++ u) :: more
      | joined => .run t :: joined
  | event :: rest => event :: joinRuns rest

/-- Start tags that do not open the body of a page. -/
def headNames : List Text :=
  ["html", "head", "base", "link", "meta"].map String.toList

/-- End tags that no element in front of them needs. -/
def bodyEndNames : List Text :=
  ["body", "html", "br"].map String.toList

def Token.isAhead : Token → Bool
  | .text t => t.all isMarkupSpace
  | .title _ => true
  | .startTag name => headNames.contains name
  | .endTag name => !bodyEndNames.contains name

/-- A byte order mark in front of a page is no part of it. -/
def dropByteOrderMark : Text → Text
  | '\uFEFF' :: t => t
  | t => t

def events (page : Text) : List Event :=
  joinRuns (Place.events ⟨false, false⟩
    ((tokens (dropByteOrderMark page)).dropWhile Token.isAhead))

end Precis.Html
