import Precis.Text.Basic

/-!
The tokens of an HTML page: tags by name, attributes left aside, the text between them, and titles.
A title holds text and no tags, so its content is read with its tag.
-/

namespace Precis.Html

inductive Token where
  | text (t : Text)
  | title (t : Text)
  | startTag (name : Text)
  | endTag (name : Text)

def isMarkupSpace (c : Char) : Bool :=
  c == ' ' || c == '\t' || c == '\n' || c == '\x0C' || c == '\r'

/-- What the names of the three basic entities stand for; their semicolon may be left out. -/
def entities : List (Text × Char) :=
  [("amp;", '&'), ("lt;", '<'), ("gt;", '>'), ("AMP;", '&'), ("LT;", '<'), ("GT;", '>'),
    ("amp", '&'), ("lt", '<'), ("gt", '>'), ("AMP", '&'), ("LT", '<'), ("GT", '>')].map
    fun e => (e.1.toList, e.2)

/-- The character that the text behind an ampersand names, and what follows the name. -/
def entity? (t : Text) : Option (Char × Text) :=
  entities.findSome? fun e => (Text.dropFront? e.1 t).map fun rest => (e.2, rest)

theorem length_of_entity? {t rest : Text} {c : Char} (h : entity? t = some (c, rest)) :
    rest.length ≤ t.length := by
  obtain ⟨e, _, he⟩ := List.exists_of_findSome?_eq_some h
  obtain ⟨u, hu, heq⟩ := Option.map_eq_some_iff.1 he
  have := Text.length_of_dropFront? hu
  grind

def decodeEntities : Text → Text
  | [] => []
  | c :: t =>
      if c = '&' then
        match _h : entity? t with
        | some (d, rest) => d :: decodeEntities rest
        | none => c :: decodeEntities t
      else c :: decodeEntities t
termination_by t => t.length
decreasing_by
  · have := length_of_entity? _h
    simp only [List.length_cons]; omega
  all_goals simp

def tagName (tag : Text) : Text :=
  Text.asciiLower (tag.takeWhile fun c => !isMarkupSpace c && c != '/')

def titleName : Text :=
  "title".toList

/-- What follows the end tag of a title, if the text starts with one. -/
def titleEnd? (t : Text) : Option Text :=
  let opener := "</title".toList
  if Text.asciiLower (t.take opener.length) = opener then
    match t.drop opener.length with
    | [] => none
    | c :: rest =>
        if isMarkupSpace c || c == '/' || c == '>' then
          some (((c :: rest).dropWhile (· != '>')).drop 1)
        else none
  else none

/-- The content of a title and what follows its end tag. A title that is not ended goes on to the
end of the page. -/
def titleContent : Text → Text × Text
  | [] => ([], [])
  | c :: t =>
      match titleEnd? (c :: t) with
      | some rest => ([], rest)
      | none =>
          let (content, rest) := titleContent t
          (c :: content, rest)

theorem length_of_titleEnd? {t rest : Text} (h : titleEnd? t = some rest) :
    rest.length ≤ t.length := by
  simp only [titleEnd?] at h
  split at h
  · split at h
    · simp at h
    · rename_i c left heq
      split at h
      · simp only [Option.some.injEq] at h
        have hdrop := congrArg List.length heq
        have hwhile := (List.dropWhile_suffix (fun d => d != '>') (l := c :: left)).length_le
        simp only [← h, List.length_drop, List.length_cons] at hdrop hwhile ⊢
        omega
      · simp at h
  · simp at h

theorem length_titleContent (t : Text) : (titleContent t).2.length ≤ t.length := by
  induction t with
  | nil => simp [titleContent]
  | cons c t ih =>
      simp only [titleContent]
      split
      · rename_i rest h
        exact length_of_titleEnd? h
      · simp only [List.length_cons]; omega

/-- The token of a tag that is written without its brackets, and what follows it. -/
def tagTokens (tag rest : Text) : List Token × Text :=
  match tag with
  | '/' :: name => ([.endTag (tagName name)], rest)
  | name =>
      if tagName name = titleName then
        let (content, rest) := titleContent rest
        ([.title (decodeEntities content)], rest)
      else ([.startTag (tagName name)], rest)

/-- Reads on from an opening bracket, which is text unless a letter, a slash, an exclamation mark or
a question mark follows. Declarations make no token, nor do end tags without a name, nor does a tag
that the page breaks off. -/
def markup? (t : Text) : Option (List Token × Text) :=
  match t with
  | [] => none
  | c :: after =>
      if c.isAlpha || c = '!' || c = '?' || c = '/' && !after.isEmpty then
        match t.dropWhile (· != '>') with
        | [] => some ([], [])
        | _ :: rest =>
            if c.isAlpha || (after.head?.any Char.isAlpha && c = '/') then
              some (tagTokens (t.takeWhile (· != '>')) rest)
            else some ([], rest)
      else none

theorem length_tagTokens (tag rest : Text) : (tagTokens tag rest).2.length ≤ rest.length := by
  simp only [tagTokens]
  split
  · simp
  · split
    · exact length_titleContent rest
    · simp

theorem length_of_markup? {t rest : Text} {found : List Token}
    (h : markup? t = some (found, rest)) : rest.length ≤ t.length := by
  have hwhile := (List.dropWhile_suffix (fun d => d != '>') (l := t)).length_le
  simp only [markup?] at h
  split at h
  · simp at h
  · rename_i c after
    split at h
    · split at h
      · simp only [Option.some.injEq, Prod.mk.injEq] at h
        simp [← h.2]
      · rename_i d left heq
        rw [heq, List.length_cons] at hwhile
        split at h
        · simp only [Option.some.injEq] at h
          have := length_tagTokens ((c :: after).takeWhile (· != '>')) left
          rw [h] at this
          simp only at this
          omega
        · simp only [Option.some.injEq, Prod.mk.injEq] at h
          rw [← h.2]; omega
    · simp at h

def tokens : Text → List Token
  | [] => []
  | c :: t =>
      if c = '<' then
        match _h : markup? t with
        | some (found, rest) => found ++ tokens rest
        | none => .text [c] :: tokens t
      else
        .text (decodeEntities (c :: t.takeWhile (· != '<'))) :: tokens (t.dropWhile (· != '<'))
termination_by t => t.length
decreasing_by
  · have := length_of_markup? _h
    simp only [List.length_cons]; omega
  · simp
  · have := (List.dropWhile_suffix (fun d => d != '<') (l := t)).length_le
    simp only [List.length_cons]; omega

end Precis.Html
