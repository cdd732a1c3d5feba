import Precis.Text.Basic

/-!
Headings, each with its provenance. The provenance is written behind the text wherever a heading is
stored, so that a reader can tell how far to trust it.
-/

namespace Precis

inductive Provenance where
  | fonts
  | text
deriving DecidableEq

def Provenance.rubric : Provenance → Text
  | .fonts => "[from PDF fonts]".toList
  | .text => "[from PDF text]".toList

structure Heading where
  text : Text
  provenance : Provenance
deriving DecidableEq

/-- The heading as it is stored. -/
def Heading.tagged (h : Heading) : Text :=
  h.text ++ ' ' :: h.provenance.rubric

end Precis
