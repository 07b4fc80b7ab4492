import EventChannel.Proofs.Text.Glob
import EventChannel.Proofs.World.Interps
import Mathlib.Data.String.Basic

/-! A table holds no name twice, whatever has happened to it, so the names that a pattern stands for
come in strictly ascending order, each of them once. -/

namespace EventChannel

variable {σ : Type}

namespace Interp

variable {i : Interp} {pattern name : String}

/-- A name is in a table if some entry stands under it. -/
theorem contains_iff : i.contains name = true ↔ name ∈ i.channels.map (·.1) := by
  simp only [contains, lookup?, List.lookup_isSome_iff, List.mem_map]
  constructor
  · rintro ⟨entry, hMem, hName⟩
    exact ⟨entry, hMem, (beq_iff_eq.1 hName).symm⟩
  · rintro ⟨entry, hMem, rfl⟩
    exact ⟨entry, hMem, beq_self_eq_true _⟩

/-- The names listed are those in the table that the pattern stands for. -/
theorem mem_names :
    name ∈ i.names (some pattern) ↔
      i.contains name = true ∧ Text.GlobMatches pattern.toList name.toList := by
  rw [names, List.mem_mergeSort, List.mem_filter, contains_iff, Text.globMatches_iff]

/-- They are listed in ascending order, and none of them twice if none is in the table twice. -/
theorem Distinct.pairwise_names (distinct : i.Distinct) (pattern? : Option String) :
    (i.names pattern?).Pairwise (· < ·) := by
  have ascending : (i.names pattern?).Pairwise fun a b => decide (a ≤ b) = true := by
    apply List.pairwise_mergeSort
    · intro a b c hAB hBC
      exact decide_eq_true (String.le_trans (of_decide_eq_true hAB) (of_decide_eq_true hBC))
    · intro a b
      simpa using String.le_total a b
  have once : (i.names pattern?).Nodup :=
    (List.mergeSort_perm _ _).nodup_iff.2 (distinct.filter _)
  refine (ascending.and once).imp ?_
  intro a b hBoth
  exact lt_of_le_of_ne (of_decide_eq_true hBoth.1) hBoth.2

end Interp

/-- A pattern is taken to stand for a text exactly if the text can be split into parts, one for each
character of the pattern: any part for a star, one character for a question mark, the character
itself for any other. And whatever has happened to the tables, if none of them held a name twice at
the start, the names listed for a pattern are the registered ones that it stands for, in ascending
order and none of them twice. -/
theorem matching_names_listed :
    (∀ pattern text : List Char, Text.globMatches pattern text = true ↔
      ∃ parts, List.Forall₂ Text.StandsFor pattern parts ∧ parts.flatten = text) ∧
    ∀ {s : Surroundings σ} {w w' : World σ} {events : List (Event σ)},
      s.Leads w events w' → (∀ i, (w.interp i).Distinct) →
      ∀ (i : InterpId) (pattern : String),
        ((w'.interp i).names (some pattern)).Pairwise (· < ·) ∧
        ∀ name, name ∈ (w'.interp i).names (some pattern) ↔
          (w'.interp i).contains name = true ∧
            ∃ parts, List.Forall₂ Text.StandsFor pattern.toList parts ∧
              parts.flatten = name.toList := by
  constructor
  · intro pattern text
    rw [Text.globMatches_iff, Text.globMatches_iff_split]
  · intro s w w' events history distinct i pattern
    refine ⟨(history.distinct (distinct i)).pairwise_names _, fun name => ?_⟩
    rw [Interp.mem_names, Text.globMatches_iff_split]

/-- Channels come and go, two of them under the same name. -/
def crowdedSetting : Setting Unit where
  driver _ call env := { answer := call.unsupported, env }
  ready _ _ := .none
  users _ _ := false
  routine u := .done u.unit
  fire _ _ := .done ()

def crowdedProgram : Program Unit Unit := do
  let interp ← Program.act .newInterp
  for name in ["sock2", "file1", "sock1", "sock2", "sock"] do
    let channel ← Program.act (.open { name, type := "file", mode := .both })
    Program.register interp channel
  let _ ← Program.act (.unregister interp "sock")

/-- Two of the names left are of the form asked for, and one is not. -/
theorem matching_names_listed_crowded :
    ∃ events w', crowdedSetting.Runs crowdedProgram { env := () } events () w' ∧
      ((w'.interp 0).names (some "s*k?")).Pairwise (· < ·) ∧
      "sock1" ∈ (w'.interp 0).names (some "s*k?") ∧
      "sock2" ∈ (w'.interp 0).names (some "s*k?") ∧
      "file1" ∉ (w'.interp 0).names (some "s*k?") := by
  have hTrace : (crowdedSetting.trace 1 crowdedProgram { env := () }).any (fun r =>
      decide ((r.2.2.interp 0).contains "sock1" = true ∧
        (r.2.2.interp 0).contains "sock2" = true)) = true := by decide +kernel
  obtain ⟨events, answer, w', run, hChecked⟩ := Setting.exists_runs hTrace
  obtain ⟨hFirst, hSecond⟩ := of_decide_eq_true hChecked
  obtain ⟨ascending, listed⟩ :=
    (matching_names_listed (σ := Unit)).2 run.leads (fun _ => List.nodup_nil) 0 "s*k?"
  refine ⟨events, w', run, ascending, ?_, ?_, ?_⟩
  · refine (listed "sock1").2 ⟨hFirst, [['s'], ['o', 'c'], ['k'], ['1']], ?_, by decide⟩
    simp [Text.StandsFor]
  · refine (listed "sock2").2 ⟨hSecond, [['s'], ['o', 'c'], ['k'], ['2']], ?_, by decide⟩
    simp [Text.StandsFor]
  · intro hMem
    obtain ⟨-, parts, stand, hText⟩ := (listed "file1").1 hMem
    have hPattern : "s*k?".toList = 's' :: ['*', 'k', '?'] := rfl
    rw [hPattern, List.forall₂_cons_left_iff] at stand
    obtain ⟨part, parts, first, -, rfl⟩ := stand
    obtain ⟨c, rfl, hMark | hSame⟩ := (first.resolve_left (by decide)).2
    · exact absurd hMark (by decide)
    · obtain rfl := hSame
      have hHeads : 's' :: parts.flatten = 'f' :: ['i', 'l', 'e', '1'] := hText
      exact absurd (List.cons.inj hHeads).1 (by decide)

end EventChannel
