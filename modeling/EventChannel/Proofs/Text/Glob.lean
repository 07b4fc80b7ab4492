import EventChannel.Text.Glob
import Mathlib.Data.List.Forall2

/-! Going back to the last star only loses nothing. What an earlier star could gain by being
stretched, the last one gains too: the pattern between the two takes as many characters wherever it
fits, so its later places are places that the last star can be stretched to. -/

namespace EventChannel.Text

variable {pattern text : List Char}

theorem globMatches_nil : GlobMatches [] text ↔ text = [] := by
  constructor
  · intro fits
    cases fits
    rfl
  · rintro rfl
    exact .done

/-- A star stands for any beginning of the text. -/
theorem globMatches_star :
    GlobMatches ('*' :: pattern) text ↔
      ∃ skipped rest, skipped ++ rest = text ∧ GlobMatches pattern rest := by
  constructor
  · intro fits
    cases fits with
    | star skipped rest => exact ⟨skipped, _, rfl, rest⟩
    | same c plain rest => exact absurd rfl plain
  · rintro ⟨skipped, rest, rfl, fits⟩
    exact .star skipped fits

/-- Any other character of the pattern stands for one of the text. -/
theorem globMatches_cons {p : Char} (plain : p ≠ '*') :
    GlobMatches (p :: pattern) text ↔
      ∃ c rest, text = c :: rest ∧ (p = '?' ∨ p = c) ∧ GlobMatches pattern rest := by
  constructor
  · intro fits
    cases fits with
    | star skipped rest => exact absurd rfl plain
    | one c rest => exact ⟨c, _, rfl, .inl rfl, rest⟩
    | same c _ rest => exact ⟨p, _, rfl, .inr rfl, rest⟩
  · rintro ⟨c, rest, rfl, rfl | rfl, fits⟩
    · exact .one c fits
    · exact .same p plain fits

/-- Only stars stand for the empty text. -/
theorem globMatches_empty : GlobMatches pattern [] ↔ pattern.all (· == '*') = true := by
  induction pattern with
  | nil => simp [globMatches_nil]
  | cons p pattern ih =>
    by_cases hStar : p = '*'
    · subst hStar
      simp [globMatches_star, ih]
    · simp [globMatches_cons hStar, hStar]

/-- What a star is stretched over may be longer. -/
theorem GlobMatches.stretch (skipped : List Char) (fits : GlobMatches ('*' :: pattern) text) :
    GlobMatches ('*' :: pattern) (skipped ++ text) := by
  obtain ⟨more, rest, rfl, hRest⟩ := globMatches_star.1 fits
  exact globMatches_star.2 ⟨skipped ++ more, rest, List.append_assoc .., hRest⟩

/-- A star stands for nothing, or takes the first character and may take more. -/
theorem globMatches_star_cases :
    GlobMatches ('*' :: pattern) text ↔
      GlobMatches pattern text ∨
        ∃ c rest, text = c :: rest ∧ GlobMatches ('*' :: pattern) rest := by
  constructor
  · intro fits
    obtain ⟨_ | ⟨c, skipped⟩, rest, rfl, hRest⟩ := globMatches_star.1 fits
    · exact .inl hRest
    · exact .inr ⟨c, skipped ++ rest, rfl, .star skipped hRest⟩
  · rintro (fits | ⟨c, rest, rfl, fits⟩)
    · exact .star [] fits
    · exact fits.stretch [c]

/-- A part of the pattern without stars stands for as many characters as it has. -/
theorem GlobMatches.split {taken : List Char} (plain : '*' ∉ taken)
    (fits : GlobMatches (taken ++ pattern) text) :
    ∃ front rest, text = front ++ rest ∧ front.length = taken.length ∧
      GlobMatches pattern rest := by
  induction taken generalizing text with
  | nil => exact ⟨[], text, rfl, rfl, fits⟩
  | cons p taken ih =>
    rw [List.mem_cons, not_or] at plain
    obtain ⟨c, text, rfl, -, fits⟩ := (globMatches_cons (Ne.symm plain.1)).1 fits
    obtain ⟨front, rest, rfl, hLength, fits⟩ := ih plain.2 fits
    exact ⟨c :: front, rest, rfl, congrArg (· + 1) hLength, fits⟩

/-- What one character of a pattern stands for. -/
def StandsFor (p : Char) (part : List Char) : Prop :=
  p = '*' ∨ p ≠ '*' ∧ ∃ c, part = [c] ∧ (p = '?' ∨ p = c)

/-- A pattern stands for the texts that can be split into parts, one for each of its characters. -/
theorem globMatches_iff_split :
    GlobMatches pattern text ↔
      ∃ parts, List.Forall₂ StandsFor pattern parts ∧ parts.flatten = text := by
  induction pattern generalizing text with
  | nil =>
    rw [globMatches_nil]
    constructor
    · rintro rfl
      exact ⟨[], .nil, rfl⟩
    · rintro ⟨_, _ | _, rfl⟩
      rfl
  | cons p pattern ih =>
    by_cases hStar : p = '*'
    · subst hStar
      simp only [globMatches_star, ih]
      constructor
      · rintro ⟨skipped, rest, rfl, parts, stand, rfl⟩
        exact ⟨skipped :: parts, .cons (.inl rfl) stand, rfl⟩
      · rintro ⟨_, _ | ⟨-, stand⟩, rfl⟩
        exact ⟨_, _, rfl, _, stand, rfl⟩
    · simp only [globMatches_cons hStar, ih]
      constructor
      · rintro ⟨c, rest, rfl, one, parts, stand, rfl⟩
        exact ⟨[c] :: parts, .cons (.inr ⟨hStar, c, rfl, one⟩) stand, rfl⟩
      · rintro ⟨_, _ | ⟨hStar' | ⟨-, c, rfl, one⟩, stand⟩, rfl⟩
        · exact absurd hStar' hStar
        · exact ⟨c, _, rfl, one, _, stand, rfl⟩

namespace GlobScan

variable {s s' : GlobScan}

/-- Since the last star the scan has gone on by as many characters of the pattern as of the text,
and has not come to another star. -/
def Anchored (s : GlobScan) : Prop :=
  ∀ after waiting, s.star? = some (after, waiting) →
    ∃ taken given, after = taken ++ s.pattern ∧ waiting = given ++ s.text ∧
      taken.length = given.length ∧ '*' ∉ taken

/-- There is a match further on: the last star takes one more character, and perhaps others. -/
def Extends (s : GlobScan) : Prop :=
  ∃ after c waiting, s.star? = some (after, c :: waiting) ∧ GlobMatches ('*' :: after) waiting

/-- There is a match from here, or further on. -/
def Hopeful (s : GlobScan) : Prop := GlobMatches s.pattern s.text ∨ s.Extends

/-- The scan as it goes on from a star that has been stretched up to some text. -/
def fromStar (pattern text : List Char) : GlobScan :=
  { pattern, text, star? := some (pattern, text) }

theorem anchored_fromStar : (fromStar pattern text).Anchored := by
  rintro _ _ ⟨⟩
  exact ⟨[], [], rfl, rfl, rfl, nofun⟩

theorem hopeful_fromStar :
    (fromStar pattern text).Hopeful ↔ GlobMatches ('*' :: pattern) text := by
  rw [globMatches_star_cases]
  apply or_congr_right
  constructor
  · rintro ⟨_, c, rest, ⟨⟩, fits⟩
    exact ⟨c, rest, rfl, fits⟩
  · rintro ⟨c, rest, hText, fits⟩
    exact ⟨pattern, c, rest, by rw [fromStar, hText], fits⟩

/-- Where a match further on would come to what is left of the pattern. The pattern before that
takes as many characters as it took, but begins later, so what it leaves of the text is shorter. -/
theorem Anchored.resumes (anchored : s.Anchored) (further : s.Extends) :
    ∃ skipped rest, s.text = skipped ++ rest ∧ skipped ≠ [] ∧ GlobMatches s.pattern rest := by
  obtain ⟨after, c, waiting, hStar, fits⟩ := further
  obtain ⟨taken, given, rfl, hWaiting, hLength, plain⟩ := anchored _ _ hStar
  obtain ⟨skipped, _, rfl, hAfter⟩ := globMatches_star.1 fits
  obtain ⟨front, rest, rfl, hFront, hRest⟩ := hAfter.split plain
  have hAll : given ++ s.text = (c :: skipped ++ front) ++ rest := by
    rw [← hWaiting]
    simp
  rcases List.append_eq_append_iff.1 hAll with ⟨more, hMore, hText⟩ | ⟨more, hMore, -⟩
  · refine ⟨more, rest, hText, ?_, hRest⟩
    rintro rfl
    have hShort := congrArg List.length hMore
    simp only [List.length_append, List.length_cons, List.length_nil] at hShort
    omega
  · have hShort := congrArg List.length hMore
    simp only [List.length_append, List.length_cons] at hShort
    omega

/-- Where the pattern and the text part, there is hope exactly if the last star can be stretched. -/
theorem Anchored.stretch (anchored : s.Anchored) (hText : s.text ≠ [])
    (parts : ¬GlobMatches s.pattern s.text) :
    match s.stretch? with
    | some s' => s'.Anchored ∧ (s'.Hopeful ↔ s.Hopeful)
    | none => ¬s.Hopeful := by
  have hope : s.Hopeful ↔ s.Extends := or_iff_right parts
  rw [hope, Extends, stretch?]
  cases hStar : s.star? with
  | none => simp
  | some star =>
    obtain ⟨after, _ | ⟨c, waiting⟩⟩ := star
    · obtain ⟨-, given, -, hWaiting, -⟩ := anchored _ _ hStar
      exact absurd (List.append_eq_nil_iff.1 hWaiting.symm).2 hText
    · refine ⟨anchored_fromStar, hopeful_fromStar.trans ?_⟩
      constructor
      · exact fun fits => ⟨after, c, waiting, rfl, fits⟩
      · rintro ⟨_, _, _, ⟨⟩, fits⟩
        exact fits

/-- The last star stays the anchor while the pattern and the text agree. -/
theorem Anchored.advance {p c : Char} {star? : Option (List Char × List Char)}
    (anchored : (GlobScan.mk (p :: pattern) (c :: text) star?).Anchored) (plain : p ≠ '*') :
    (GlobScan.mk pattern text star?).Anchored := by
  intro after waiting hStar
  obtain ⟨taken, given, rfl, rfl, hLength, hPlain⟩ := anchored after waiting hStar
  refine ⟨taken ++ [p], given ++ [c], ?_, ?_, ?_, ?_⟩
  · exact (List.append_assoc taken [p] pattern).symm
  · exact (List.append_assoc given [c] text).symm
  · simp [hLength]
  · simp [hPlain, Ne.symm plain]

/-- A move keeps the anchor, and there is as much hope after it as before. -/
theorem Anchored.next (anchored : s.Anchored) (hText : s.text ≠ []) :
    match s.next? with
    | some s' => s'.Anchored ∧ (s'.Hopeful ↔ s.Hopeful)
    | none => ¬s.Hopeful := by
  obtain ⟨pattern, text, star?⟩ := s
  cases pattern with
  | nil => exact anchored.stretch hText (mt globMatches_nil.1 hText)
  | cons p pattern =>
    by_cases hStar : p = '*'
    · subst hStar
      refine ⟨anchored_fromStar, hopeful_fromStar.trans ?_⟩
      refine (or_iff_left_of_imp fun further => ?_).symm
      obtain ⟨skipped, rest, rfl, -, fits⟩ := anchored.resumes further
      exact fits.stretch skipped
    · obtain ⟨c, text, rfl⟩ := List.exists_cons_of_ne_nil hText
      have fits_iff : GlobMatches (p :: pattern) (c :: text) ↔
          (p = '?' ∨ p = c) ∧ GlobMatches pattern text := by
        simp [globMatches_cons hStar]
      by_cases hTakes : p = '?' ∨ p = c
      · have moves : next? ⟨p :: pattern, c :: text, star?⟩ = some ⟨pattern, text, star?⟩ := by
          simp [next?, hTakes]
        rw [moves]
        refine ⟨anchored.advance hStar, or_congr_left ?_⟩
        rw [fits_iff, and_iff_right hTakes]
      · have parts : ¬GlobMatches (p :: pattern) (c :: text) := fun fits =>
          hTakes (fits_iff.1 fits).1
        simpa [next?, hTakes, hStar] using anchored.stretch hText parts

/-- A scan accepts exactly if there is hope. -/
theorem Anchored.accepts (anchored : s.Anchored) : s.accepts = true ↔ s.Hopeful := by
  fun_induction GlobScan.accepts s with
  | case1 s hEnd =>
    have hText : s.text = [] := List.isEmpty_iff.1 hEnd
    have stuck : ¬s.Extends := by
      intro further
      obtain ⟨skipped, rest, hRest, hSome, -⟩ := anchored.resumes further
      rw [hText] at hRest
      exact hSome (List.append_eq_nil_iff.1 hRest.symm).1
    rw [Hopeful, hText, globMatches_empty, or_iff_left stuck]
  | case2 s hText s' moves ih =>
    have next := anchored.next (by simpa using hText)
    rw [moves] at next
    exact (ih next.1).trans next.2
  | case3 s hText stuck =>
    have next := anchored.next (by simpa using hText)
    rw [stuck] at next
    simp [next]

end GlobScan

/-- The scan decides the language of the pattern. -/
theorem globMatches_iff : globMatches pattern text = true ↔ GlobMatches pattern text := by
  have anchored : (GlobScan.mk pattern text none).Anchored := nofun
  refine anchored.accepts.trans (or_iff_left ?_)
  rintro ⟨after, c, waiting, hStar, -⟩
  contradiction

end EventChannel.Text
