import Precis.Text.Basic

/-!
Web links in running text. A link is `http://` or `https://` and as many of the characters that
links are made of as follow, up to the last one that may end it: a full stop or comma behind a link
belongs to the sentence.
-/

namespace Precis.Text

/-- Characters that a link may end with. -/
def endsLink (c : Char) : Bool :=
  c.isAlphanum || "-+&@#/%=~_|".toList.contains c

/-- Characters that a link may hold behind its scheme. -/
def continuesLink (c : Char) : Bool :=
  endsLink c || "?!:,.;".toList.contains c

def dropScheme? (t : Text) : Option Text :=
  match dropFront? "http".toList t with
  | none => none
  | some ('s' :: rest) => dropFront? "://".toList rest
  | some rest => dropFront? "://".toList rest

/-- What follows the longest run of link characters that ends as a link may. -/
def dropAddress? : Text → Option Text
  | [] => none
  | c :: rest =>
      if continuesLink c then
        match dropAddress? rest with
        | some left => some left
        | none => if endsLink c then some rest else none
      else none

def dropLink? (t : Text) : Option Text :=
  (dropScheme? t).bind dropAddress?

theorem length_of_dropScheme? {t rest : Text} (h : dropScheme? t = some rest) :
    rest.length < t.length := by
  unfold dropScheme? at h
  split at h
  · simp at h
  · next hd =>
    have := length_of_dropFront? hd
    have := length_of_dropFront? h
    simp_all; omega
  · next hd =>
    have := length_of_dropFront? hd
    have := length_of_dropFront? h
    simp_all; omega

theorem length_of_dropAddress? {t rest : Text} (h : dropAddress? t = some rest) :
    rest.length < t.length := by
  induction t generalizing rest with
  | nil => simp [dropAddress?] at h
  | cons c t ih =>
      simp only [dropAddress?] at h
      split at h
      · split at h
        · next hd => have := ih hd; simp_all; omega
        · split at h <;> simp_all
      · simp at h

theorem length_of_dropLink? {t rest : Text} (h : dropLink? t = some rest) :
    rest.length < t.length := by
  obtain ⟨address, hs, ha⟩ := Option.bind_eq_some_iff.1 h
  exact Nat.lt_trans (length_of_dropAddress? ha) (length_of_dropScheme? hs)

/-- Writes a space in place of every link. -/
def dropLinks : Text → Text
  | [] => []
  | c :: t =>
      match _h : dropLink? (c :: t) with
      | some rest => ' ' :: dropLinks rest
      | none => c :: dropLinks t
termination_by t => t.length
decreasing_by
  · exact length_of_dropLink? _h
  · exact Nat.lt_succ_self t.length

end Precis.Text
