import Precis.Text.Numeral

/-!
Page counts. A document has the number of pages that its reader reported, if that is a positive
number of 32 bits, and else one page, if it has any text.
-/

namespace Precis

def reportedPages? (reported : Text) : Option Nat :=
  (Text.toNatSigned? reported.trim).bind fun n => if 0 < n ∧ n < UInt32.size then some n else none

def pageCount? (reported : Option Text) (body : Text) : Option Nat :=
  match reported.bind reportedPages? with
  | some n => some n
  | none => if body.isBlank then none else some 1

end Precis
