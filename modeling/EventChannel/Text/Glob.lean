/-! `*` stands for any text, `?` for any one character, every other character for itself.
`GlobMatches` is the language of a pattern. `globMatches` decides it in one pass over the text that
goes back to the last star only: when the pattern and the text part, that star is stretched by one
more character, and the stars before it keep what they have. -/

namespace EventChannel.Text

/-- The texts that a pattern stands for. -/
inductive GlobMatches : List Char → List Char → Prop
  | done : GlobMatches [] []
  | star {pattern text : List Char} (skipped : List Char) (rest : GlobMatches pattern text) :
      GlobMatches ('*' :: pattern) (skipped ++ text)
  | one {pattern text : List Char} (c : Char) (rest : GlobMatches pattern text) :
      GlobMatches ('?' :: pattern) (c :: text)
  | same {pattern text : List Char} (c : Char) (plain : c ≠ '*')
      (rest : GlobMatches pattern text) : GlobMatches (c :: pattern) (c :: text)

/-- How far a comparison has come. -/
structure GlobScan where
  /-- What is left of the pattern. -/
  pattern : List Char
  /-- What is left of the text. -/
  text : List Char
  /-- The pattern after the last star, and the text that this star has not been stretched over. -/
  star? : Option (List Char × List Char) := none

namespace GlobScan

/-- Goes back to the last star and stretches it by one character. -/
def stretch? (s : GlobScan) : Option GlobScan :=
  match s.star? with
  | some (pattern, _ :: text) => some { pattern, text, star? := some (pattern, text) }
  | _ => none

/-- Goes on by one character of the pattern, or else from the last star. -/
def next? (s : GlobScan) : Option GlobScan :=
  match s.pattern, s.text with
  | '*' :: pattern, text => some { pattern, text, star? := some (pattern, text) }
  | p :: pattern, c :: text =>
    if p = '?' ∨ p = c then some { s with pattern, text } else s.stretch?
  | _, _ => s.stretch?

/-- What the last star can still be stretched over; more than the text if there is no star. -/
def slack (s : GlobScan) : Nat :=
  match s.star? with
  | some (_, text) => max text.length s.text.length
  | none => s.text.length + 1

/-- Every move takes something from the pattern or the text, and going back takes something from
what the last star can be stretched over. -/
theorem next?_lt {s s' : GlobScan} (moves : s.next? = some s') :
    s'.slack < s.slack ∨
      s'.slack = s.slack ∧
        s'.pattern.length + s'.text.length < s.pattern.length + s.text.length := by
  have back {s' : GlobScan} (stretched : s.stretch? = some s') : s'.slack < s.slack := by
    simp only [stretch?] at stretched
    split at stretched
    · next hStar =>
      cases stretched
      simp only [slack, hStar, List.length_cons]
      omega
    · contradiction
  obtain ⟨pattern, text, star?⟩ := s
  simp only [next?] at moves
  split at moves
  · cases moves
    simp only [slack, List.length_cons]
    cases star? <;> simp only <;> omega
  · split at moves
    · cases moves
      simp only [slack, List.length_cons]
      cases star? <;> simp only <;> omega
    · exact .inl (back moves)
  · exact .inl (back moves)

/-- Whether the rest of the text is as the rest of the pattern says, or can be made so by stretching
the last star. -/
def accepts (s : GlobScan) : Bool :=
  if s.text.isEmpty then s.pattern.all (· == '*')
  else match _ : s.next? with
    | some s' => s'.accepts
    | none => false
termination_by (s.slack, s.pattern.length + s.text.length)
decreasing_by exact Prod.lex_def.2 (next?_lt (by assumption))

end GlobScan

/-- Whether a pattern stands for a text. -/
def globMatches (pattern text : List Char) : Bool := GlobScan.accepts { pattern, text }

end EventChannel.Text
