import Mathlib
import Toolpath.Units

/-!
# The spellings of a unit system

A unit system is read by lower-casing the text by the Unicode rules and comparing the result with
the spellings `metric` and `mm` of the metric system and `imperial`, `inch` and `in` of the
imperial one. Unicode lower case agrees with ASCII case folding on ASCII characters, and beyond
ASCII it almost never gives an ASCII character: of the lower-case table, only the Kelvin sign
lower-cases to one, `k`, and the capital I with a dot above gives a small `i` only together with a
combining dot. So a text lower-cases to an ASCII word without `k` exactly when folding its ASCII
capitals gives that word, and the spellings are read in any ASCII letter case and in no other way.

Main statements:
* `Text.lowercase_eq_iff`: a text lower-cases to an ASCII word without `k` exactly when ASCII case
  folding turns it into that word;
* `Units.parse_accepts_exactly_its_spellings`: a system is read exactly from its spellings up to
  the case of ASCII letters, and any other text is refused with the message that quotes it.
-/

namespace Toolpath

namespace Text

/-- Two texts are equal up to the case of ASCII letters; other characters must match exactly. -/
def EqIgnoreAsciiCase (text word : String) : Prop :=
  text.toList.map Char.toLower = word.toList.map Char.toLower

instance (text word : String) : Decidable (EqIgnoreAsciiCase text word) :=
  inferInstanceAs (Decidable (_ = _))

theorem isUpper_iff_toNat {character : Char} :
    character.isUpper ↔ 0x41 ≤ character.toNat ∧ character.toNat ≤ 0x5A := by
  simp [Char.isUpper, UInt32.le_iff_toNat_le]

/-! ## The lower-case table against ASCII -/

/-- The capitals `A` to `Z` make the one run that starts within ASCII. -/
theorem lowercaseRuns_within_ascii :
    ∀ run ∈ lowercaseRuns, run.first < 0x80 → run = ⟨0x41, 0x5A, 1, 0x61⟩ := by
  decide +kernel

/-- A run that reaches beyond ASCII is the Kelvin sign's, or lower-cases to characters beyond
ASCII: its targets lie above ASCII and are code points of characters. -/
theorem lowercaseRuns_beyond_ascii :
    ∀ run ∈ lowercaseRuns, 0x80 ≤ run.last → run = ⟨0x212A, 0x212A, 1, 0x6B⟩ ∨
      0x80 ≤ run.target ∧ (run.lower run.last < 0xD800 ∨
        0xE000 ≤ run.target ∧ run.lower run.last < 0x110000) := by
  decide +kernel

/-- The run look-up: a character lower-cases by the run that covers its code point, or, when no
run does, stays as it is. -/
theorem lowercaseSimple_eq_or (character : Char) :
    (∃ run ∈ lowercaseRuns, run.first ≤ character.toNat ∧ character.toNat ≤ run.last ∧
      lowercaseSimple character = Char.ofNat (run.lower character.toNat)) ∨
    ((∀ run ∈ lowercaseRuns, run.covers character.toNat = false) ∧
      lowercaseSimple character = character) := by
  unfold lowercaseSimple
  split
  · next run found =>
    have covered := List.find?_some found
    simp only [CaseRun.covers, Bool.and_eq_true, decide_eq_true_eq, beq_iff_eq] at covered
    exact .inl ⟨run, List.mem_of_find?_eq_some found, covered.1.1, covered.1.2, rfl⟩
  · next missing =>
    exact .inr ⟨fun run listed => by simpa using List.find?_eq_none.1 missing run listed, rfl⟩

/-- On ASCII the one-to-one mappings are ASCII case folding. -/
theorem lowercaseSimple_of_lt {character : Char} (ascii : character.toNat < 0x80) :
    lowercaseSimple character = character.toLower := by
  rcases lowercaseSimple_eq_or character with
    ⟨run, listed, above, below, lowered⟩ | ⟨uncovered, kept⟩
  · obtain rfl := lowercaseRuns_within_ascii run listed (by omega)
    dsimp only at above below
    rw [lowered, Char.toLower_eq_of_isUpper (isUpper_iff_toNat.2 ⟨above, below⟩)]
    simp only [CaseRun.lower]
    congr 1
    omega
  · -- no run covers a capital, since the capitals' run would
    have notUpper : ¬ character.isUpper := by
      intro upper
      have capital := isUpper_iff_toNat.1 upper
      have missed := uncovered ⟨0x41, 0x5A, 1, 0x61⟩ (by decide)
      simp only [CaseRun.covers, Nat.mod_one, beq_self_eq_true, Bool.and_true,
        Bool.and_eq_false_iff, decide_eq_false_iff_not] at missed
      omega
    rw [kept, Char.toLower_eq_of_not_isUpper notUpper]

/-- Beyond ASCII the one-to-one mappings stay beyond ASCII, but for the Kelvin sign, which
lower-cases to `k`. -/
theorem lowercaseSimple_of_ge {character : Char} (beyond : 0x80 ≤ character.toNat) :
    character = '\u212A' ∧ lowercaseSimple character = 'k' ∨
      0x80 ≤ (lowercaseSimple character).toNat := by
  rcases lowercaseSimple_eq_or character with
    ⟨run, listed, above, below, lowered⟩ | ⟨-, kept⟩
  · rw [lowered]
    rcases lowercaseRuns_beyond_ascii run listed (by omega) with rfl | ⟨shifted, valid⟩
    · dsimp only at above below
      have kelvin : character.toNat = 0x212A := by omega
      refine .inl ⟨Char.toNat_inj.1 kelvin, ?_⟩
      simp only [CaseRun.lower, kelvin]
    · -- the target is a character's code point, so it survives `Char.ofNat`
      simp only [CaseRun.lower] at valid ⊢
      rw [Char.toNat_ofNat, if_pos (by omega)]
      omega
  · rw [kept]
    exact .inr beyond

example : lowercase "\u212Am" = "km" := by decide

/-- An ASCII character lower-cases to its ASCII lower case, wherever it stands. -/
theorem lowercaseAt_of_lt (before after : List Char) {character : Char}
    (ascii : character.toNat < 0x80) :
    lowercaseAt before character after = [character.toLower] := by
  have notSigma : character ≠ 'Σ' := by rintro rfl; exact absurd ascii (by decide)
  have notDotted : character ≠ '\u0130' := by rintro rfl; exact absurd ascii (by decide)
  simp [lowercaseAt, lowercaseChar, notSigma, notDotted, lowercaseSimple_of_lt ascii]

/-- A character beyond ASCII lower-cases to characters one of which is beyond ASCII or is `k`. -/
theorem exists_mem_lowercaseAt_of_ge (before after : List Char) {character : Char}
    (beyond : 0x80 ≤ character.toNat) :
    ∃ lower ∈ lowercaseAt before character after, 0x80 ≤ lower.toNat ∨ lower = 'k' := by
  unfold lowercaseAt lowercaseChar
  split
  · -- a capital sigma becomes a small sigma, final or not
    exact ⟨_, List.mem_singleton_self _, .inl (by split <;> decide)⟩
  · split
    · -- the capital I with a dot keeps the dot as a combining mark after the `i`
      exact ⟨'\u0307', by simp, .inl (by decide)⟩
    · rcases lowercaseSimple_of_ge beyond with ⟨-, kelvin⟩ | shifted
      · exact ⟨_, List.mem_singleton_self _, .inr kelvin⟩
      · exact ⟨_, List.mem_singleton_self _, .inl shifted⟩

/-! ## Lower case against ASCII case folding -/

/-- Lower-casing characters after any context gives an ASCII word without `k` exactly when ASCII
case folding gives it. -/
theorem lowercaseFrom_eq_iff (before text : List Char) {word : List Char}
    (plain : ∀ letter ∈ word, letter.toNat < 0x80 ∧ letter ≠ 'k') :
    lowercaseFrom before text = word ↔ text.map Char.toLower = word := by
  induction text generalizing before word with
  | nil => simp [lowercaseFrom]
  | cons character after ih =>
    by_cases ascii : character.toNat < 0x80
    · rw [lowercaseFrom, lowercaseAt_of_lt before after ascii]
      cases word with
      | nil => simp
      | cons letter rest =>
        simp only [List.singleton_append, List.map_cons, List.cons.injEq]
        rw [ih (character :: before) (fun other mem => plain other (List.mem_cons_of_mem _ mem))]
    · -- neither side can give the word: each puts a character beyond ASCII, or `k`, into it
      have beyond : 0x80 ≤ character.toNat := by omega
      constructor
      · intro lowered
        obtain ⟨lower, mem, outside⟩ := exists_mem_lowercaseAt_of_ge before after beyond
        have inWord := plain lower (lowered ▸ List.mem_append_left _ mem)
        rcases outside with shifted | rfl
        · omega
        · exact absurd rfl inWord.2
      · intro folded
        have kept : character.toLower = character :=
          Char.toLower_eq_of_not_isUpper (fun upper => by
            have capital := isUpper_iff_toNat.1 upper
            omega)
        have inWord := plain character (folded ▸ by simp [kept])
        omega

/-- A text lower-cases to an ASCII word without `k` exactly when ASCII case folding turns it into
that word. -/
theorem lowercase_eq_iff (text : String) {word : String}
    (plain : ∀ letter ∈ word.toList, letter.toNat < 0x80 ∧ letter ≠ 'k') :
    lowercase text = word ↔ text.toList.map Char.toLower = word.toList := by
  rw [← String.toList_inj, lowercase, String.toList_ofList]
  exact lowercaseFrom_eq_iff [] text.toList plain

/-- A text lower-cases to an ASCII word in small letters without `k` exactly when it equals the
word up to the case of ASCII letters. -/
theorem lowercase_eq_iff_eqIgnoreAsciiCase (text word : String)
    (plain : ∀ letter ∈ word.toList, letter.toNat < 0x80 ∧ letter ≠ 'k')
    (small : word.toList.map Char.toLower = word.toList) :
    lowercase text = word ↔ EqIgnoreAsciiCase text word := by
  rw [lowercase_eq_iff text plain, EqIgnoreAsciiCase, small]

end Text

namespace Units

open Text

/-- A system is read exactly from its spellings, `metric` or `mm` and `imperial`, `inch` or `in`,
in any case of their ASCII letters, and any other text is refused with the message that quotes
it. -/
theorem parse_accepts_exactly_its_spellings (text : String) :
    (parse text = .ok .metric ↔
      EqIgnoreAsciiCase text "metric" ∨ EqIgnoreAsciiCase text "mm") ∧
    (parse text = .ok .imperial ↔ EqIgnoreAsciiCase text "imperial" ∨
      EqIgnoreAsciiCase text "inch" ∨ EqIgnoreAsciiCase text "in") ∧
    (parse text = .error ("Unknown measurement system: " ++ text) ↔
      ¬ (EqIgnoreAsciiCase text "metric" ∨ EqIgnoreAsciiCase text "mm" ∨
        EqIgnoreAsciiCase text "imperial" ∨ EqIgnoreAsciiCase text "inch" ∨
        EqIgnoreAsciiCase text "in")) := by
  rw [← lowercase_eq_iff_eqIgnoreAsciiCase text "metric" (by simp) (by decide),
    ← lowercase_eq_iff_eqIgnoreAsciiCase text "mm" (by simp) (by decide),
    ← lowercase_eq_iff_eqIgnoreAsciiCase text "imperial" (by simp) (by decide),
    ← lowercase_eq_iff_eqIgnoreAsciiCase text "inch" (by simp) (by decide),
    ← lowercase_eq_iff_eqIgnoreAsciiCase text "in" (by simp) (by decide)]
  -- what is left is the comparison of the lower case with the five spellings
  unfold parse
  generalize lowercase text = folded
  by_cases metric : folded = "metric" ∨ folded = "mm"
  · rcases metric with rfl | rfl <;> simp
  · by_cases imperial : folded = "imperial" ∨ folded = "inch" ∨ folded = "in"
    · rcases imperial with rfl | rfl | rfl <;> simp
    · simp_all

example : parse "İN" = .error "Unknown measurement system: İN" := by decide

end Units

end Toolpath
