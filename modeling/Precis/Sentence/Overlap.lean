import Precis.Text.Basic
import Precis.Unicode.Case

/-!
How much two sentences have in common: the number of pairs of words, one of each sentence, that
agree but for the case of letters. Counting each word once per sentence first makes this one pass
over two sorted tables.
-/

namespace Precis

/-- Words in small letters, in ascending order, each with how often it occurs. -/
abbrev WordTable := List (Text × Nat)

namespace WordTable

def add (word : Text) : WordTable → WordTable
  | [] => [(word, 1)]
  | (w, n) :: rest =>
      if word = w then (w, n + 1) :: rest
      else if word < w then (word, 1) :: (w, n) :: rest
      else (w, n) :: add word rest

def ofWords (words : List Text) : WordTable :=
  words.foldl (fun table word => table.add word) []

/-- The number of all words, repetitions included. -/
def total : WordTable → Nat
  | [] => 0
  | (_, n) :: rest => n + total rest

/-- The sum of the products of the counts of each word. -/
def common : WordTable → WordTable → Nat
  | [], _ => 0
  | _ :: _, [] => 0
  | (v, m) :: a, (w, n) :: b =>
      if v = w then m * n + common a b
      else if v < w then common a ((w, n) :: b)
      else common ((v, m) :: a) b
termination_by a b => a.length + b.length
decreasing_by all_goals simp only [List.length_cons]; omega

end WordTable

namespace Text

def lowercaseWords (t : Text) : List Text :=
  t.words.map Unicode.lowercase

def wordTable (t : Text) : WordTable :=
  WordTable.ofWords t.lowercaseWords

/-- How many pairs of places, one in each text, hold the same word. -/
def sharedPlaces (a b : Text) : Nat :=
  (a.lowercaseWords.flatMap fun v => b.lowercaseWords.filter fun w => decide (v = w)).length

end Text
end Precis
