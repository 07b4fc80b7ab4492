import EventChannel.Text.ListSyntax
import Mathlib.Data.List.Basic

/-! Braces are put around an element, but nothing inside is escaped. A plain element ends at the
next blank, and one in braces ends at a closing brace; which one is in doubt only if the element
itself holds a closing brace that looks like the end of an element. -/

namespace EventChannel.Text

variable {s t : List Char} {xs ys words : List (List Char)}

/-- A text that stands in a list as it is. -/
def Plain (text : List Char) : Prop := text ≠ [] ∧ ∀ c ∈ text, needsBraces c = false

theorem Plain.listElement_eq (plain : Plain s) : listElement s = s :=
  listElement_of_plain plain.1 plain.2

theorem listElement_of_not_plain (special : ¬Plain s) : listElement s = '{' :: (s ++ ['}']) := by
  have h : (s.isEmpty || s.any needsBraces) = true := by
    by_contra h
    simp only [Bool.or_eq_true, List.isEmpty_iff, List.any_eq_true, not_or, not_exists, not_and,
      Bool.not_eq_true] at h
    exact special h
  simp [listElement, h]

/-- What follows the first element of a list: the others, each after a blank. -/
def spaced (items : List (List Char)) : List Char := items.flatMap fun s => ' ' :: listElement s

@[simp] theorem spaced_nil : spaced [] = [] := rfl

@[simp] theorem spaced_cons : spaced (s :: xs) = ' ' :: (listElement s ++ spaced xs) := by
  simp [spaced]

@[simp] theorem spaced_append : spaced (xs ++ ys) = spaced xs ++ spaced ys :=
  List.flatMap_append

@[simp] theorem renderList_nil : renderList [] = [] := rfl

theorem renderList_cons : renderList (s :: xs) = listElement s ++ spaced xs := by
  induction xs generalizing s with
  | nil => simp [renderList, joinElements]
  | cons x xs ih =>
    rw [spaced_cons, ← ih]
    simp [renderList, joinElements, List.intercalate]

theorem Plain.not_mem {c : Char} (plain : Plain s) (special : needsBraces c = true) : c ∉ s := by
  intro hMem
  rw [plain.2 c hMem] at special
  exact absurd special (by decide)

theorem listElement_ne_nil : listElement s ≠ [] := by
  by_cases plain : Plain s
  · rw [plain.listElement_eq]
    exact plain.1
  · simp [listElement_of_not_plain plain]

/-- The second text begins like the first, and goes on as a list does whose first element is the
first text in braces: with some plain elements and the beginning of another in braces. -/
def Breaks (s t : List Char) : Prop :=
  ¬Plain s ∧ ∃ words rest, (∀ w ∈ words, Plain w) ∧
    t = s ++ '}' :: (spaced words ++ ' ' :: '{' :: rest)

/-- In the text of a list a closing brace is preceded by plain elements and the opening brace of the
element it stands in. -/
theorem spaced_eq_brace {front rest : List Char} (h : spaced xs = front ++ '}' :: rest) :
    ∃ words inner, (∀ w ∈ words, Plain w) ∧ front = spaced words ++ ' ' :: '{' :: inner := by
  induction xs generalizing front with
  | nil => simp at h
  | cons x xs ih =>
    by_cases plain : Plain x
    · rw [spaced_cons, plain.listElement_eq, ← List.cons_append,
        List.append_eq_append_iff] at h
      have hBrace : '}' ∉ ' ' :: x := by
        simpa using plain.not_mem (by decide)
      -- The brace lies behind this element: at once it cannot, a blank comes first.
      obtain ⟨front, rfl, hRest⟩ | ⟨_ | ⟨c, beyond⟩, hFront, hRest⟩ := h
      · obtain ⟨words, inner, hWords, rfl⟩ := ih hRest
        refine ⟨x :: words, inner, List.forall_mem_cons.2 ⟨plain, hWords⟩, ?_⟩
        simp [plain.listElement_eq]
      · cases xs <;> simp at hRest
      · obtain ⟨rfl, -⟩ := List.cons.inj hRest
        exact absurd (by simp [hFront]) hBrace
    · rw [spaced_cons, listElement_of_not_plain plain] at h
      obtain _ | ⟨a, _ | ⟨b, inner⟩⟩ := front
      · simp at h
      · simp at h
      · simp only [List.cons_append, List.cons.injEq] at h
        obtain ⟨rfl, rfl, -⟩ := h
        exact ⟨[], inner, by simp, rfl⟩

/-- Two elements in braces of which the first ends no later: they end together, or the second
breaks at the end of the first. -/
theorem braced_cases (special : ¬Plain s) {more : List Char} (hMore : t = s ++ more)
    (h : '}' :: spaced xs = more ++ '}' :: spaced ys) :
    s = t ∧ spaced xs = spaced ys ∨ Breaks s t := by
  cases more with
  | nil => exact .inl ⟨by simpa using hMore.symm, (List.cons.inj h).2⟩
  | cons c more =>
    obtain ⟨rfl, hRest⟩ := List.cons.inj h
    obtain ⟨words, inner, hWords, rfl⟩ := spaced_eq_brace hRest
    exact .inr ⟨special, words, inner, hWords, hMore⟩

/-- A plain element ends where the blank of the next one is, or with the list. -/
theorem plain_cases (plain : Plain t) {more : List Char} (hMore : t = s ++ more)
    (h : spaced xs = more ++ spaced ys) : s = t ∧ spaced xs = spaced ys := by
  cases more with
  | nil => exact ⟨by simpa using hMore.symm, h⟩
  | cons c more =>
    cases xs with
    | nil => simp at h
    | cons x xs =>
      rw [spaced_cons, List.cons_append] at h
      obtain ⟨rfl, -⟩ := List.cons.inj h
      exact absurd (by simp [hMore]) (plain.not_mem (c := ' ') (by decide))

/-- A plain element does not begin with a brace. -/
theorem plain_append_ne {more rest : List Char} (plain : Plain s) : s ++ more ≠ '{' :: rest := by
  obtain _ | ⟨c, s⟩ := s
  · exact absurd rfl plain.1
  · intro h
    obtain ⟨rfl, -⟩ := List.cons.inj h
    exact absurd (by simp) (plain.not_mem (c := '{') (by decide))

/-- Lists with one text have the same first element, and then the same text after it, or one of
their first elements breaks at the end of the other. -/
theorem renderList_cons_cases (h : renderList (s :: xs) = renderList (t :: ys)) :
    s = t ∧ spaced xs = spaced ys ∨ Breaks s t ∨ Breaks t s := by
  rw [renderList_cons, renderList_cons] at h
  by_cases hs : Plain s <;> by_cases ht : Plain t
  · rw [hs.listElement_eq, ht.listElement_eq,
      List.append_eq_append_iff] at h
    obtain ⟨more, hMore, hRest⟩ | ⟨more, hMore, hRest⟩ := h
    · exact .inl (plain_cases ht hMore hRest)
    · obtain ⟨hSame, hRest⟩ := plain_cases hs hMore hRest
      exact .inl ⟨hSame.symm, hRest.symm⟩
  · rw [hs.listElement_eq, listElement_of_not_plain ht] at h
    exact absurd h (plain_append_ne hs)
  · rw [listElement_of_not_plain hs, ht.listElement_eq] at h
    exact absurd h.symm (plain_append_ne ht)
  · rw [listElement_of_not_plain hs, listElement_of_not_plain ht] at h
    simp only [List.cons_append, List.append_assoc, List.cons.injEq, true_and, List.nil_append] at h
    obtain ⟨more, hMore, hRest⟩ | ⟨more, hMore, hRest⟩ := List.append_eq_append_iff.1 h
    · exact (braced_cases hs hMore hRest).imp_right .inl
    · exact (braced_cases ht hMore hRest).imp (fun same => ⟨same.1.symm, same.2.symm⟩) .inr

/-- The other way round: where one text breaks at the end of another, both begin lists that are
written alike. -/
theorem Breaks.exists_renderList (breaks : Breaks s t) :
    ∃ xs ys, renderList (s :: xs) = renderList (t :: ys) := by
  obtain ⟨special, words, rest, -, rfl⟩ := breaks
  -- The element left open is closed in the one list; in the other this ends the second text, and
  -- an empty element follows.
  refine ⟨words ++ [rest ++ ['}', ' ', '{']], [[]], ?_⟩
  have hLast : ¬Plain (rest ++ ['}', ' ', '{']) := fun plain =>
    plain.not_mem (c := '}') (by decide) (by simp)
  have hSecond : ¬Plain (s ++ '}' :: (spaced words ++ ' ' :: '{' :: rest)) := fun plain =>
    plain.not_mem (c := '}') (by decide) (by simp)
  have hEmpty : ¬Plain [] := fun plain => plain.1 rfl
  simp [renderList_cons, listElement_of_not_plain, special, hLast, hSecond, hEmpty]

/-- Two texts can begin lists that are written alike only if they are the same or one of them breaks
at the end of the other. -/
theorem exists_renderList_iff :
    (∃ xs ys, renderList (s :: xs) = renderList (t :: ys)) ↔ s = t ∨ Breaks s t ∨ Breaks t s := by
  constructor
  · rintro ⟨xs, ys, h⟩
    exact (renderList_cons_cases h).imp_left And.left
  · rintro (rfl | breaks | breaks)
    · exact ⟨[], [], rfl⟩
    · exact breaks.exists_renderList
    · obtain ⟨xs, ys, h⟩ := breaks.exists_renderList
      exact ⟨ys, xs, h.symm⟩

/-- No element of one list breaks at the end of an element of the other. -/
def Unbroken (xs ys : List (List Char)) : Prop :=
  ∀ s ∈ xs, ∀ t ∈ ys, ¬Breaks s t ∧ ¬Breaks t s

theorem Unbroken.tail (unbroken : Unbroken (s :: xs) (t :: ys)) : Unbroken xs ys :=
  fun x hx y hy => unbroken x (.tail _ hx) y (.tail _ hy)

theorem eq_of_spaced_eq (unbroken : Unbroken xs ys) (h : spaced xs = spaced ys) : xs = ys := by
  induction xs generalizing ys with
  | nil =>
    cases ys with
    | nil => rfl
    | cons t ys => simp at h
  | cons s xs ih =>
    cases ys with
    | nil => simp at h
    | cons t ys =>
      rw [spaced_cons, spaced_cons, ← renderList_cons, ← renderList_cons] at h
      have hFirst := not_or.2 (unbroken s (.head _) t (.head _))
      obtain ⟨rfl, hRest⟩ := (renderList_cons_cases (List.cons.inj h).2).resolve_right hFirst
      rw [ih unbroken.tail hRest]

/-- The text of a list tells its elements. -/
theorem eq_of_renderList_eq (unbroken : Unbroken xs ys) (h : renderList xs = renderList ys) :
    xs = ys := by
  cases xs with
  | nil =>
    cases ys with
    | nil => rfl
    | cons t ys => simp [renderList_cons, listElement_ne_nil] at h
  | cons s xs =>
    cases ys with
    | nil => simp [renderList_cons, listElement_ne_nil] at h
    | cons t ys =>
      apply eq_of_spaced_eq unbroken
      rw [spaced_cons, spaced_cons, ← renderList_cons, ← renderList_cons, h]

/-- The number of open braces after one more character; none if it closes a brace that is not
open. -/
def bracesAfter (openBraces : Nat) (c : Char) : Option Nat :=
  if c = '{' then some (openBraces + 1)
  else if c = '}' then (if openBraces = 0 then none else some (openBraces - 1))
  else some openBraces

/-- Every brace opened is closed, and every brace closed was opened. -/
def Paired (text : List Char) : Prop := text.foldlM bracesAfter 0 = some 0

instance {text : List Char} : Decidable (Paired text) :=
  inferInstanceAs (Decidable (text.foldlM bracesAfter 0 = some 0))

/-- Braces that were open before stay open below those of the text. -/
theorem bracesAfter_add {text : List Char} {n m : Nat} (k : Nat)
    (h : text.foldlM bracesAfter n = some m) : text.foldlM bracesAfter (n + k) = some (m + k) := by
  induction text generalizing n with
  | nil =>
    obtain rfl : n = m := by simpa using h
    rfl
  | cons c text ih =>
    rw [List.foldlM_cons] at h ⊢
    obtain ⟨next, hStep, hRest⟩ := Option.bind_eq_some_iff.1 h
    have hAbove : bracesAfter (n + k) c = some (next + k) := by
      unfold bracesAfter at hStep ⊢
      split_ifs at hStep ⊢ <;> grind
    rw [hAbove]
    exact ih hRest

theorem Paired.append (hs : Paired s) (ht : Paired t) : Paired (s ++ t) := by
  simp only [Paired] at hs ht ⊢
  rw [List.foldlM_append, hs]
  exact ht

/-- Braces around a text close behind it. -/
theorem Paired.braced (paired : Paired s) : Paired ('{' :: (s ++ ['}'])) := by
  have hInside : s.foldlM bracesAfter 1 = some 1 := bracesAfter_add 1 paired
  simp only [Paired, List.foldlM_cons, List.foldlM_append]
  change (s.foldlM bracesAfter 1).bind _ = _
  rw [hInside]
  rfl

theorem Paired.listElement (paired : Paired s) : Paired (listElement s) := by
  by_cases plain : Plain s
  · rwa [plain.listElement_eq]
  · rw [listElement_of_not_plain plain]
    exact paired.braced

theorem paired_spaced (paired : ∀ s ∈ xs, Paired s) : Paired (spaced xs) := by
  induction xs with
  | nil => rfl
  | cons s xs ih =>
    rw [List.forall_mem_cons] at paired
    rw [spaced_cons, ← List.singleton_append]
    exact Paired.append rfl (paired.1.listElement.append (ih paired.2))

/-- So a list of such texts is one itself, and may stand in a list again. -/
theorem paired_renderList (paired : ∀ s ∈ xs, Paired s) : Paired (renderList xs) := by
  cases xs with
  | nil => rfl
  | cons s xs =>
    rw [List.forall_mem_cons] at paired
    rw [renderList_cons]
    exact paired.1.listElement.append (paired_spaced paired.2)

/-- A text with paired braces has no brace left over to close, so it does not end inside another. -/
theorem Paired.not_breaks (hs : Paired s) (ht : Paired t) : ¬Breaks s t := by
  rintro ⟨-, words, rest, -, rfl⟩
  simp only [Paired] at hs ht
  rw [List.foldlM_append, hs] at ht
  simp [bracesAfter] at ht

theorem unbroken_of_paired (hxs : ∀ s ∈ xs, Paired s) (hys : ∀ t ∈ ys, Paired t) :
    Unbroken xs ys :=
  fun s hs t ht => ⟨(hxs s hs).not_breaks (hys t ht), (hys t ht).not_breaks (hxs s hs)⟩

end EventChannel.Text
