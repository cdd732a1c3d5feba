import Precis.Json.Reader
import Precis.Proofs.Json.Token
import Precis.Proofs.Text.Join

/-!
Reading back what was printed. The reader's state in front of a printed value is left as it is with
the value handed to the innermost open one, whatever stands behind the value.
-/

namespace Precis.Json

/-- Everything in the value can be read, and its other numbers are written as JSON has them. -/
inductive Readable : Json → Prop
  | null : Readable .null
  | bool (b : Bool) : Readable (.bool b)
  | natural (n : Nat) : Readable (.natural n)
  | number {written : Text} (h : Token.next? written = some (.number written, [])) :
      Readable (.number written)
  | string (t : Text) : Readable (.string t)
  | array {items : List Json} (h : ∀ item ∈ items, Readable item) : Readable (.array items)
  | object {members : List (Text × Json)} (h : ∀ m ∈ members, Readable m.2) :
      Readable (.object members)

theorem readable_object_iff {members : List (Text × Json)} :
    Readable (.object members) ↔ ∀ m ∈ members, Readable m.2 :=
  ⟨fun | .object h => h, .object⟩

theorem readable_ofTexts (ts : List Text) : Readable (ofTexts ts) := by
  refine .array fun item hitem => ?_
  obtain ⟨t, -, rfl⟩ := List.mem_map.1 hitem
  exact .string t

namespace State

/-- The state behind the tokens of a text. -/
def after? (s : State) (t : Text) : Option State :=
  (Token.list? t).bind fun tokens => tokens.foldlM step s

theorem after?_of_isSpace (s : State) {t : Text} (h : ∀ c ∈ t, Token.isSpace c = true) :
    s.after? t = some s := by
  have hlist : Token.list? t = some [] := by
    induction t with
    | nil => rw [Token.list?]
    | cons c t ih =>
        obtain ⟨hc, ht⟩ := List.forall_mem_cons.1 h
        rw [Token.list?, if_pos hc, ih ht]
  rw [after?, hlist]
  rfl

variable {e : Expected} {frames : List Frame} {c : Char} {t rest key : Text} {token : Token}
  {value : Json}

theorem after?_of_next? (s : State) (h : Token.next? (c :: t) = some (token, rest)) :
    s.after? (c :: t) = (s.step token).bind (·.after? rest) := by
  have hlist : Token.list? (c :: t) = (Token.list? rest).map (token :: ·) := by
    rw [Token.list?, Token.not_isSpace_of_next? h, if_neg Bool.false_ne_true]
    split <;> simp_all
  rw [after?, hlist]
  simp only [after?]
  cases Token.list? rest with
  | none => cases s.step token <;> rfl
  | some tokens => rfl

/-- The marks between values. -/
inductive Mark : Char → Token → Prop
  | openArray : Mark '[' .openArray
  | closeArray : Mark ']' .closeArray
  | openObject : Mark '\x7b' .openObject
  | closeObject : Mark '\x7d' .closeObject
  | colon : Mark ':' .colon
  | comma : Mark ',' .comma

theorem after?_mark (hmark : Mark c token) (s : State) (t : Text) :
    s.after? (c :: t) = (s.step token).bind (·.after? t) := by
  cases hmark <;> exact after?_of_next? s rfl

/-! ## Values -/

/-- Where a value may come next. -/
def AwaitsValue (e : Expected) : Prop :=
  e = .value ∨ e = .firstItem

theorem step_value (he : AwaitsValue e) (htoken : token ≠ .closeArray) :
    step ⟨e, frames⟩ token = readValue token frames := by
  rcases he with rfl | rfl
  · rfl
  · cases token with
    | closeArray => exact absurd rfl htoken
    | _ => rfl

/-- The text is read as the value wherever a value may come next. -/
def Reads (t : Text) (value : Json) : Prop :=
  ∀ ⦃e : Expected⦄ ⦃frames : List Frame⦄ ⦃rest : Text⦄, AwaitsValue e → Token.EndsNumber rest →
    State.after? ⟨e, frames⟩ (t ++ rest) = (give value frames).after? rest

theorem reads_of_next?
    (h : ∀ rest, Token.EndsNumber rest → Token.next? (t ++ rest) = some (token, rest))
    (htoken : token ≠ .closeArray)
    (hread : ∀ frames, readValue token frames = some (give value frames)) : Reads t value := by
  intro e frames rest he hrest
  have hnext := h rest hrest
  cases ht : t ++ rest with
  | nil => simp [ht, Token.next?] at hnext
  | cons c tail =>
      rw [ht] at hnext
      rw [after?_of_next? _ hnext, step_value he htoken, hread]
      rfl

theorem reads_of_number (h : Token.next? t = some (token, [])) (htoken : token.IsNumber)
    (hread : ∀ frames, readValue token frames = some (give value frames)) : Reads t value := by
  refine reads_of_next? (fun rest hrest => Token.next?_append h htoken hrest) ?_ hread
  rintro rfl
  cases htoken

/-! ## Arrays -/

theorem endsNumber_of_mark (hmark : Mark c token) (t : Text) : Token.EndsNumber (c :: t) := by
  rintro d ⟨⟩
  cases hmark <;> decide

theorem endsNumber_of_isSpace {t : Text} (h : ∀ c ∈ t, Token.isSpace c = true) :
    Token.EndsNumber t := by
  intro c hc
  have hspace := h c (List.mem_of_mem_head? hc)
  simp only [Token.isSpace, Bool.or_eq_true, decide_eq_true_eq] at hspace
  rcases hspace with ((rfl | rfl) | rfl) | rfl <;> decide

theorem endsNumber_items (items : List Json) (rest : Text) :
    Token.EndsNumber ((renderItems items).flatMap ([','] ++ ·) ++ ']' :: rest) := by
  cases items with
  | nil => exact endsNumber_of_mark .closeArray rest
  | cons _ _ => exact endsNumber_of_mark .comma _

theorem after?_items {items : List Json} (h : ∀ item ∈ items, Reads item.render item)
    (done : List Json) :
    State.after? ⟨.separator, .array done :: frames⟩
        ((renderItems items).flatMap ([','] ++ ·) ++ ']' :: rest) =
      (give (.array (done.reverse ++ items)) frames).after? rest := by
  induction items generalizing done with
  | nil =>
      rw [renderItems, List.flatMap_nil, List.nil_append, after?_mark .closeArray, List.append_nil]
      rfl
  | cons item items ih =>
      obtain ⟨hitem, hitems⟩ := List.forall_mem_cons.1 h
      rw [renderItems, List.flatMap_cons, List.append_assoc, List.append_assoc,
        List.singleton_append, after?_mark .comma]
      change State.after? ⟨.value, .array done :: frames⟩ (item.render ++ _) = _
      rw [hitem (.inl rfl) (endsNumber_items items rest)]
      change State.after? ⟨.separator, .array (item :: done) :: frames⟩ _ = _
      rw [ih hitems, List.reverse_cons, List.append_assoc, List.singleton_append]

theorem reads_array {items : List Json} (h : ∀ item ∈ items, Reads item.render item) :
    Reads (render (.array items)) (.array items) := by
  intro e frames rest he hrest
  rw [render, List.cons_append, List.append_assoc, List.singleton_append, after?_mark .openArray,
    step_value he (by simp)]
  change State.after? ⟨.firstItem, .array [] :: frames⟩ _ = _
  cases items with
  | nil =>
      rw [renderItems, Text.join, List.intercalate_nil, List.nil_append, after?_mark .closeArray]
      rfl
  | cons item items =>
      obtain ⟨hitem, hitems⟩ := List.forall_mem_cons.1 h
      rw [renderItems, Text.join_cons, List.append_assoc,
        hitem (.inr rfl) (endsNumber_items items rest)]
      exact after?_items hitems [item]

/-! ## Objects -/

def AwaitsKey (e : Expected) : Prop :=
  e = .key ∨ e = .firstKey

theorem after?_member (hvalue : Reads value.render value) (he : AwaitsKey e)
    (hrest : Token.EndsNumber rest) (done : List (Text × Json)) :
    State.after? ⟨e, .object (some done) none :: frames⟩
        (quote key ++ ':' :: value.render ++ rest) =
      State.after? ⟨.separator, .object (some ((key, value) :: done)) none :: frames⟩ rest := by
  have hkey : step ⟨e, .object (some done) none :: frames⟩ (.string (some key)) =
      some ⟨.colon, .object (some done) (some key) :: frames⟩ := by
    rcases he with rfl | rfl <;> rfl
  have hquote := Token.next?_quote key (':' :: value.render ++ rest)
  rw [List.append_assoc]
  rw [quote, List.cons_append] at hquote ⊢
  rw [after?_of_next? _ hquote, hkey, Option.bind_some, List.cons_append, after?_mark .colon]
  exact hvalue (.inl rfl) hrest

theorem endsNumber_members (members : List (Text × Json)) (rest : Text) :
    Token.EndsNumber ((renderMembers members).flatMap ([','] ++ ·) ++ '\x7d' :: rest) := by
  cases members with
  | nil => exact endsNumber_of_mark .closeObject rest
  | cons _ _ => exact endsNumber_of_mark .comma _

theorem after?_members {members : List (Text × Json)} (h : ∀ m ∈ members, Reads m.2.render m.2)
    (done : List (Text × Json)) :
    State.after? ⟨.separator, .object (some done) none :: frames⟩
        ((renderMembers members).flatMap ([','] ++ ·) ++ '\x7d' :: rest) =
      (give (.object (done.reverse ++ members)) frames).after? rest := by
  induction members generalizing done with
  | nil =>
      rw [renderMembers, List.flatMap_nil, List.nil_append, after?_mark .closeObject,
        List.append_nil]
      rfl
  | cons m members ih =>
      obtain ⟨key, value⟩ := m
      obtain ⟨hvalue, hmembers⟩ := List.forall_mem_cons.1 h
      rw [renderMembers, List.flatMap_cons, List.append_assoc, List.append_assoc,
        List.singleton_append, after?_mark .comma]
      change State.after? ⟨.key, .object (some done) none :: frames⟩ _ = _
      rw [after?_member hvalue (.inl rfl) (endsNumber_members members rest), ih hmembers,
        List.reverse_cons, List.append_assoc, List.singleton_append]

theorem reads_object {members : List (Text × Json)} (h : ∀ m ∈ members, Reads m.2.render m.2) :
    Reads (render (.object members)) (.object members) := by
  intro e frames rest he hrest
  rw [render, List.cons_append, List.append_assoc, List.singleton_append, after?_mark .openObject,
    step_value he (by simp)]
  change State.after? ⟨.firstKey, .object (some []) none :: frames⟩ _ = _
  cases members with
  | nil =>
      rw [renderMembers, Text.join, List.intercalate_nil, List.nil_append,
        after?_mark .closeObject]
      rfl
  | cons m members =>
      obtain ⟨key, value⟩ := m
      obtain ⟨hvalue, hmembers⟩ := List.forall_mem_cons.1 h
      rw [renderMembers, Text.join_cons, List.append_assoc,
        after?_member hvalue (.inr rfl) (endsNumber_members members rest)]
      exact after?_members hmembers [(key, value)]

end State

theorem Readable.reads (h : Readable value) : State.Reads value.render value := by
  induction h with
  | null =>
      have hnext : ∀ rest, Token.next? ("null".toList ++ rest) = some (.null, rest) := fun _ => rfl
      exact State.reads_of_next? (fun rest _ => hnext rest) (by simp) fun _ => rfl
  | bool b =>
      have hnext : ∀ rest, Token.next? (render (.bool b) ++ rest) = some (.bool b, rest) := by
        cases b <;> exact fun _ => rfl
      exact State.reads_of_next? (fun rest _ => hnext rest) (by simp) fun _ => rfl
  | natural n => exact State.reads_of_number (Token.next?_ofNat n) (.natural n) fun _ => rfl
  | number hnext => exact State.reads_of_number hnext (.number _) fun _ => rfl
  | string t =>
      exact State.reads_of_next? (fun rest _ => Token.next?_quote t rest) (by simp) fun _ => rfl
  | array _ ih => exact State.reads_array ih
  | object _ ih => exact State.reads_object ih

/-- White space behind a printed value makes no difference to its reading. -/
theorem ofText?_render_append {rest : Text} (h : Readable value)
    (hrest : ∀ c ∈ rest, Token.isSpace c = true) : ofText? (value.render ++ rest) = some value := by
  have hdone : State.after? ⟨.value, []⟩ (value.render ++ rest) = some ⟨.done value, []⟩ := by
    rw [h.reads (.inl rfl) (State.endsNumber_of_isSpace hrest)]
    exact State.after?_of_isSpace _ hrest
  obtain ⟨tokens, hlist, hfold⟩ := Option.bind_eq_some_iff.1 hdone
  rw [ofText?, hlist]
  change (tokens.foldlM State.step _).bind _ = _
  rw [hfold]
  rfl

theorem ofText?_render (h : Readable value) : ofText? value.render = some value := by
  have hnone : ∀ c ∈ ([] : Text), Token.isSpace c = true := by simp
  have hread := ofText?_render_append h hnone
  rwa [List.append_nil] at hread

end Precis.Json
