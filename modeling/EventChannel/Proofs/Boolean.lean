import EventChannel.Option
import EventChannel.Proofs.Text.Integer
import EventChannel.Proofs.Text.LetterCase

/-! A text spells a truth value as a number or as the only word that it abbreviates. Numbers have no
letters in them and words have nothing else, so no text does both. -/

namespace EventChannel

open Text

/-- As a number, a text spells whether it is other than zero, as long as 64 bits can hold it. -/
def SpellsAsNumber (text : List Char) (value : Bool) : Prop :=
  ∃ n : Int, SpellsInteger text n ∧ (-2 ^ 63 ≤ n ∧ n < 2 ^ 63) ∧ (value = true ↔ n ≠ 0)

/-- The words for a truth value. -/
def wordsFor : Bool → List String
  | true => ["true", "yes", "on"]
  | false => ["false", "no", "off"]

/-- In small letters, the text begins the word. -/
def Abbreviates (text : List Char) (word : String) : Prop :=
  text.map Char.toLower <+: word.toList

/-- As a word, a text spells the truth value of the only word that it abbreviates. -/
def SpellsAsWord (text : List Char) (value : Bool) : Prop :=
  text ≠ [] ∧ ∃ word ∈ wordsFor value, Abbreviates text word ∧
    ∀ value', ∀ word' ∈ wordsFor value', Abbreviates text word' → word' = word

/-- A text spells a truth value in one of these two ways. -/
def SpellsBoolean (text : List Char) (value : Bool) : Prop :=
  SpellsAsNumber text value ∨ SpellsAsWord text value

variable {text other : List Char} {word : String} {value : Bool} {n : Int}

instance : Decidable (Abbreviates text word) := inferInstanceAs (Decidable (_ <+: _))

instance : Decidable (SpellsAsWord text value) :=
  inferInstanceAs (Decidable (_ ∧ ∃ word ∈ wordsFor value, _ ∧ _))

theorem spellsAsNumber_iff :
    SpellsAsNumber text value ↔ (int64? text).map (· != 0) = some value := by
  rw [Option.map_eq_some_iff]
  refine exists_congr fun n => ?_
  have hValue : (n != 0) = value ↔ (value = true ↔ n ≠ 0) := by cases value <;> simp
  rw [int64?_eq_some_iff, hValue, ← and_assoc]

instance : Decidable (SpellsAsNumber text value) := decidable_of_iff _ spellsAsNumber_iff.symm

section Words

theorem mem_booleanWords : (word, value) ∈ booleanWords ↔ word ∈ wordsFor value := by
  cases value <;> simp [booleanWords, wordsFor]

theorem nodup_booleanWords : (booleanWords.map Prod.fst).Nodup := by decide

/-- All characters of the words are letters. -/
theorem isAlpha_of_mem_wordsFor (hWord : word ∈ wordsFor value) :
    ∀ c ∈ word.toList, c.isAlpha = true := by
  cases value <;> simp only [wordsFor, List.mem_cons, List.not_mem_nil, or_false] at hWord <;>
    obtain rfl | rfl | rfl := hWord <;> simp

theorem filter_eq_singleton_iff {α : Type*} {l : List α} {p : α → Bool} {a : α} (nodup : l.Nodup) :
    l.filter p = [a] ↔ a ∈ l ∧ p a = true ∧ ∀ b ∈ l, p b = true → b = a := by
  rw [← List.perm_singleton, List.perm_ext_iff_of_nodup (nodup.filter p) (List.nodup_singleton a)]
  simp only [List.mem_filter, List.mem_singleton]
  constructor
  · intro h
    obtain ⟨hMem, ha⟩ := (h a).2 rfl
    exact ⟨hMem, ha, fun b hb hpb => (h b).1 ⟨hb, hpb⟩⟩
  · rintro ⟨hMem, ha, hOnly⟩ b
    refine ⟨fun ⟨hb, hpb⟩ => hOnly b hb hpb, ?_⟩
    rintro rfl
    exact ⟨hMem, ha⟩

theorem booleanWord?_eq_some : booleanWord? text = some value ↔
    text ≠ [] ∧ ∃ word, (booleanWords.filter fun entry => text.isPrefixOf entry.1.toList) =
      [(word, value)] := by
  unfold booleanWord?
  split_ifs with hEmpty
  · simp [List.isEmpty_iff.1 hEmpty]
  · have nonempty : text ≠ [] := fun h => hEmpty (List.isEmpty_iff.2 h)
    rw [and_iff_right nonempty]
    split
    · next word' value' hFilter => simp [hFilter]
    · next hFilter => simpa using fun word => hFilter word value

theorem spellsAsWord_iff :
    SpellsAsWord text value ↔ booleanWord? (text.map Char.toLower) = some value := by
  have nodup : booleanWords.Nodup := nodup_booleanWords.of_map
  simp only [booleanWord?_eq_some, filter_eq_singleton_iff nodup, mem_booleanWords,
    List.isPrefixOf_iff_prefix, ne_eq, List.map_eq_nil_iff]
  refine and_congr_right' (exists_congr fun word => and_congr_right fun hWord =>
    and_congr_right' ⟨?_, ?_⟩)
  · rintro hOnly ⟨word', value'⟩ hMem hBegins
    have same : word' = word := hOnly value' word' (mem_booleanWords.1 hMem) hBegins
    exact List.inj_on_of_nodup_map nodup_booleanWords hMem (mem_booleanWords.2 hWord) same
  · intro hOnly value' word' hMem hBegins
    exact congrArg Prod.fst (hOnly (word', value') (mem_booleanWords.2 hMem) hBegins)

end Words

instance : Decidable (SpellsBoolean text value) := inferInstanceAs (Decidable (_ ∨ _))

/-- The first character of a number is no letter, that of a word is one. -/
theorem Text.SpellsInteger.not_spellsAsWord (spells : SpellsInteger text n) :
    ¬SpellsAsWord text value := by
  rintro ⟨nonempty, word, hWord, hBegins, -⟩
  obtain ⟨c, rest, rfl⟩ := List.exists_cons_of_ne_nil nonempty
  have noLetter : c.isAlpha = false := spells.isAlpha_eq_false c List.mem_cons_self
  have letter : c.toLower.isAlpha = true :=
    isAlpha_of_mem_wordsFor hWord _ (hBegins.mem List.mem_cons_self)
  rw [Char.isAlpha_toLower_eq_isAlpha, noLetter] at letter
  cases letter

section Case

theorem SpellsAsNumber.recased (number : SpellsAsNumber text value)
    (sameLetters : text.map Char.toLower = other.map Char.toLower) :
    SpellsAsNumber other value := by
  have unchanged : text = other := by
    obtain ⟨n, spells, -⟩ := number
    exact eq_of_map_toLower_eq spells.isAlpha_eq_false sameLetters
  rwa [← unchanged]

theorem spellsAsWord_congr (sameLetters : text.map Char.toLower = other.map Char.toLower) :
    SpellsAsWord text value ↔ SpellsAsWord other value := by
  rw [spellsAsWord_iff, spellsAsWord_iff, sameLetters]

theorem spellsBoolean_congr (sameLetters : text.map Char.toLower = other.map Char.toLower) :
    SpellsBoolean text value ↔ SpellsBoolean other value := by
  have hNumber : SpellsAsNumber text value ↔ SpellsAsNumber other value :=
    ⟨(·.recased sameLetters), (·.recased sameLetters.symm)⟩
  rw [SpellsBoolean, SpellsBoolean, hNumber, spellsAsWord_congr sameLetters]

end Case

theorem parseBoolean_eq_ok {text : String} :
    parseBoolean text = .ok value ↔ SpellsBoolean (trim text.toList) value := by
  rw [SpellsBoolean, spellsAsNumber_iff, spellsAsWord_iff]
  simp only [parseBoolean]
  generalize trim text.toList = trimmed
  cases hNumber : int64? trimmed with
  | some n =>
    have noWord : booleanWord? (trimmed.map Char.toLower) ≠ some value :=
      fun hWord => (int64?_eq_some_iff.1 hNumber).1.not_spellsAsWord (spellsAsWord_iff.2 hWord)
    simp [noWord]
  | none => cases booleanWord? (trimmed.map Char.toLower) <;> simp

theorem parseBoolean_cases (text : String) :
    (∃ value, parseBoolean text = .ok value) ∨
      parseBoolean text = .error (.invalidBoolean text) := by
  simp only [parseBoolean]
  split
  · exact .inl ⟨_, rfl⟩
  · split
    · exact .inl ⟨_, rfl⟩
    · exact .inr rfl

theorem toOption_parseBoolean_eq_some {text : String} :
    (parseBoolean text).toOption = some value ↔ SpellsBoolean (trim text.toList) value := by
  rw [← parseBoolean_eq_ok]
  cases parseBoolean text <;> simp [Except.toOption]

/-- A text is read as a truth value if, but for blanks around it, it spells this value as a number
or as a word; any other text is reported as it was given. What is read does not depend on case or on
the blanks around, and no text of a number, whether 64 bits can hold it or not, is one of a word. -/
theorem booleans_read_exactly :
    (∀ (text : String) (value : Bool),
      parseBoolean text = .ok value ↔ SpellsBoolean (trim text.toList) value) ∧
    (∀ text : String, (∀ value, ¬SpellsBoolean (trim text.toList) value) →
      parseBoolean text = .error (.invalidBoolean text) ∧
      (Misuse.invalidBoolean text).message =
        "expected boolean value but got \"" ++ text ++ "\"") ∧
    (∀ (text : String) (front recased back : List Char),
      (∀ c ∈ front, isBlank c = true) → (∀ c ∈ back, isBlank c = true) →
      recased.map Char.toLower = text.toList.map Char.toLower →
      (parseBoolean (String.ofList (front ++ recased ++ back))).toOption =
        (parseBoolean text).toOption) ∧
    ∀ (text : List Char) (n : Int) (value : Bool),
      ¬(SpellsInteger text n ∧ SpellsAsWord text value) := by
  refine ⟨fun _ _ => parseBoolean_eq_ok, ?_, ?_, fun _ _ _ h => h.1.not_spellsAsWord h.2⟩
  · intro text unspelled
    refine ⟨(parseBoolean_cases text).resolve_left ?_, rfl⟩
    rintro ⟨value, hRead⟩
    exact unspelled value (parseBoolean_eq_ok.1 hRead)
  · intro text front recased back hFront hBack sameLetters
    have hTrimmed : (trim (front ++ recased ++ back)).map Char.toLower =
        (trim text.toList).map Char.toLower := by
      rw [trim_padded recased hFront hBack, ← trim_map_toLower, ← trim_map_toLower, sameLetters]
    ext value
    rw [toOption_parseBoolean_eq_some, toOption_parseBoolean_eq_some, String.toList_ofList,
      spellsBoolean_congr hTrimmed]

/-- The lowest number of 64 bits, a number that is higher than all of them, the abbreviation that
two words share, and one word in other letters and between blanks. -/
theorem booleans_read_exactly_edges :
    parseBoolean "\t-9223372036854775808" = .ok true ∧
    parseBoolean "9223372036854775808 " = .error (.invalidBoolean "9223372036854775808 ") ∧
    parseBoolean " O" = .error (.invalidBoolean " O") ∧
    (parseBoolean (String.ofList ([' '] ++ "oFf".toList ++ ['\n']))).toOption =
      (parseBoolean "OFF").toOption ∧
    parseBoolean "OFF" = .ok false := by
  obtain ⟨spelled, unspelled, alike, -⟩ := booleans_read_exactly
  refine ⟨?_, ?_, ?_, ?_, ?_⟩
  · exact (spelled "\t-9223372036854775808" true).2 (by decide)
  · exact (unspelled "9223372036854775808 " (by decide)).1
  · exact (unspelled " O" (by decide)).1
  · exact alike "OFF" [' '] "oFf".toList ['\n'] (List.forall_mem_singleton.2 rfl)
      (List.forall_mem_singleton.2 rfl) (by decide)
  · exact (spelled "OFF" false).2 (by decide)

end EventChannel
