import EventChannel.Option
import EventChannel.Proofs.Text.ListSyntax
import Mathlib.Data.String.Basic

/-! The text of a list tells its elements, and that of a listing its names and displayed values,
unless some of them hold what looks like the end of another. -/

namespace EventChannel

namespace OptionValue

variable {xs ys : List String}

theorem display_list (xs : List String) :
    (list xs).display = String.ofList (Text.renderList (xs.map String.toList)) := rfl

theorem display_list_eq_iff : (list xs).display = (list ys).display ↔
    Text.renderList (xs.map String.toList) = Text.renderList (ys.map String.toList) := by
  rw [display_list, display_list, String.ofList_inj]

/-- Two different texts begin lists that are displayed alike exactly if one of them breaks at the
end of the other. -/
theorem exists_display_list_iff {s t : String} (differ : s ≠ t) :
    (∃ xs ys, (list (s :: xs)).display = (list (t :: ys)).display) ↔
      Text.Breaks s.toList t.toList ∨ Text.Breaks t.toList s.toList := by
  have hTexts : s.toList ≠ t.toList := fun same => differ (String.toList_inj.1 same)
  have hAlike := Text.exists_renderList_iff (s := s.toList) (t := t.toList)
  rw [or_iff_right hTexts] at hAlike
  rw [← hAlike]
  constructor
  · rintro ⟨xs, ys, h⟩
    exact ⟨_, _, display_list_eq_iff.1 h⟩
  · rintro ⟨xs, ys, h⟩
    refine ⟨xs.map String.ofList, ys.map String.ofList, display_list_eq_iff.2 ?_⟩
    simpa [Function.comp_def] using h

/-- A value in whose texts all braces are paired. -/
def Paired : OptionValue → Prop
  | .text value => Text.Paired value.toList
  | .list items => ∀ item ∈ items, Text.Paired item.toList

instance : (value : OptionValue) → Decidable value.Paired
  | .text value => inferInstanceAs (Decidable (Text.Paired value.toList))
  | .list items => inferInstanceAs (Decidable (∀ item ∈ items, Text.Paired item.toList))

theorem Paired.display {value : OptionValue} (paired : value.Paired) :
    Text.Paired value.display.toList := by
  cases value with
  | text value => exact paired
  | list items =>
    rw [display_list, String.toList_ofList]
    exact Text.paired_renderList (by simpa [Paired] using paired)

end OptionValue

namespace OptionListing

variable {listing other : OptionListing}

/-- The texts in a listing, in its order: each name, followed by its displayed value. -/
def texts (listing : OptionListing) : List (List Char) :=
  listing.flatMap fun (name, value) => [name.toList, value.display.toList]

/-- What a listing shows of its options. -/
def shown (listing : OptionListing) : List (String × String) :=
  listing.map fun (name, value) => (name, value.display)

theorem render_eq (listing : OptionListing) :
    listing.render = String.ofList (Text.renderList listing.texts) := rfl

theorem shown_eq_of_texts_eq (h : listing.texts = other.texts) : listing.shown = other.shown := by
  induction listing generalizing other with
  | nil =>
    cases other with
    | nil => rfl
    | cons entry other => simp [texts] at h
  | cons entry listing ih =>
    cases other with
    | nil => simp [texts] at h
    | cons entry' other =>
      simp only [texts, List.flatMap_cons, List.cons_append, List.nil_append, List.cons.injEq,
        String.toList_inj] at h
      obtain ⟨hName, hValue, hRest⟩ := h
      have hShown : shown listing = shown other := ih hRest
      simp only [shown, List.map_cons, List.cons.injEq, Prod.mk.injEq] at hShown ⊢
      exact ⟨⟨hName, hValue⟩, hShown⟩

theorem shown_eq_of_render_eq (unbroken : Text.Unbroken listing.texts other.texts)
    (h : listing.render = other.render) : listing.shown = other.shown := by
  rw [render_eq, render_eq, String.ofList_inj] at h
  exact shown_eq_of_texts_eq (Text.eq_of_renderList_eq unbroken h)

/-- A listing in whose texts all braces are paired. -/
def Paired (listing : OptionListing) : Prop :=
  ∀ entry ∈ listing, Text.Paired entry.1.toList ∧ entry.2.Paired

instance : Decidable listing.Paired :=
  inferInstanceAs (Decidable (∀ entry ∈ listing, Text.Paired entry.1.toList ∧ entry.2.Paired))

theorem Paired.unbroken (paired : listing.Paired) (hOther : other.Paired) :
    Text.Unbroken listing.texts other.texts := by
  have hTexts : ∀ {l : OptionListing}, l.Paired → ∀ s ∈ l.texts, Text.Paired s := by
    intro l hl s hs
    obtain ⟨entry, hEntry, hs⟩ := List.mem_flatMap.1 hs
    obtain ⟨hName, hValue⟩ := hl entry hEntry
    rcases List.mem_cons.1 hs with rfl | hs
    · exact hName
    · obtain rfl := List.mem_singleton.1 hs
      exact hValue.display
  exact Text.unbroken_of_paired (hTexts paired) (hTexts hOther)

end OptionListing

/-- Lists that are displayed alike are the same, and listings with the same text have the same names
and the same displayed values in the same order, as long as no text in one breaks at the end of a
text in the other. Nothing less will do: whenever one text breaks at the end of another, lists that
begin with them can be displayed alike. -/
theorem list_text_unambiguous (xs ys : List String) (listing other : OptionListing) :
    (Text.Unbroken (xs.map String.toList) (ys.map String.toList) →
      (OptionValue.list xs).display = (OptionValue.list ys).display → xs = ys) ∧
    (Text.Unbroken listing.texts other.texts →
      listing.render = other.render → listing.shown = other.shown) ∧
    ∀ s t : String, s ≠ t →
      ((∃ xs ys, (OptionValue.list (s :: xs)).display = (OptionValue.list (t :: ys)).display) ↔
        Text.Breaks s.toList t.toList ∨ Text.Breaks t.toList s.toList) := by
  refine ⟨?_, OptionListing.shown_eq_of_render_eq, fun _ _ => OptionValue.exists_display_list_iff⟩
  intro unbroken h
  have hTexts := Text.eq_of_renderList_eq unbroken (OptionValue.display_list_eq_iff.1 h)
  exact List.map_injective_iff.2 (fun _ _ => String.toList_inj.1) hTexts

/-- One element with two braces in it, or two without any text; one option with a value that goes on
like a listing, or two options. An opening brace is written as \x7b here and a closing one as
\x7d. -/
theorem list_text_ambiguous :
    ((OptionValue.list ["\x7d \x7b"]).display = (OptionValue.list ["", ""]).display ∧
      ["\x7d \x7b"] ≠ ["", ""]) ∧
    OptionListing.render [("-error", .text "a b\x7d -peername \x7bc d")] =
      OptionListing.render [("-error", .text "a b"), ("-peername", .text "c d")] ∧
    OptionListing.shown [("-error", .text "a b\x7d -peername \x7bc d")] ≠
      OptionListing.shown [("-error", .text "a b"), ("-peername", .text "c d")] := by
  decide +kernel

/-- Elements with blanks, paired braces, quotes and backslashes; a list in a listing that has the
text of a value that is no list; and two elements of which one holds the end of the other. -/
theorem list_text_unambiguous_special :
    (OptionValue.list ["a \x7bb\x7d c", "", "\\ \""]).display ≠
      (OptionValue.list ["a", "\x7bb\x7d c", "", "\\", "\""]).display ∧
    OptionListing.render [("-peername", .list ["::1", "\x7b\x7d"])] =
      OptionListing.render [("-peername", .text "::1 \x7b\x7b\x7d\x7d")] ∧
    OptionListing.shown [("-peername", .list ["::1", "\x7b\x7d"])] =
      OptionListing.shown [("-peername", .text "::1 \x7b\x7b\x7d\x7d")] ∧
    ∃ xs ys, (OptionValue.list ("" :: xs)).display =
      (OptionValue.list ("\x7d \x7b" :: ys)).display := by
  obtain ⟨lists, listings, alike⟩ := list_text_unambiguous
    ["a \x7bb\x7d c", "", "\\ \""] ["a", "\x7bb\x7d c", "", "\\", "\""]
    [("-peername", .list ["::1", "\x7b\x7d"])] [("-peername", .text "::1 \x7b\x7b\x7d\x7d")]
  refine ⟨?_, by decide +kernel, ?_, ?_⟩
  · intro h
    refine absurd (lists (Text.unbroken_of_paired ?_ ?_) h) (by decide)
    · decide
    · decide
  · have hList : OptionListing.Paired [("-peername", .list ["::1", "\x7b\x7d"])] := by decide
    have hText : OptionListing.Paired [("-peername", .text "::1 \x7b\x7b\x7d\x7d")] := by decide
    exact listings (hList.unbroken hText) (by decide +kernel)
  · have hBreaks : Text.Breaks "".toList "\x7d \x7b".toList :=
      ⟨fun plain => plain.1 rfl, [], [], by simp, by decide⟩
    exact (alike "" "\x7d \x7b" (by decide)).2 (.inl hBreaks)

end EventChannel
