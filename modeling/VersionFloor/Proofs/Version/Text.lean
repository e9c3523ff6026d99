import VersionFloor.Proofs.Json.ReadBack
import VersionFloor.Proofs.Version.Grammar
import VersionFloor.Version.Json

set_option autoImplicit false

namespace VersionFloor

theorem numeral_toDigits (n : Nat) : Numeral (Nat.toDigits 10 n) n := by
  refine numeral_iff.2 ⟨Nat.toDigits_ne_nil, fun c listed => ?_, ?_⟩
  · exact Nat.isDigit_of_mem_toDigits (by decide) (by decide) listed
  · exact Nat.ofDigitChars_toDigits (by decide) (by decide)

theorem Numeral.dotless {part : List Char} {n : Nat} (denotes : Numeral part n) : '.' ∉ part := by
  intro dot
  exact absurd ((numeral_iff.1 denotes).2.1 '.' dot) (by decide)

/-- A zero with other digits behind it. -/
def Padded (part : List Char) : Prop :=
  ∃ rest, rest ≠ [] ∧ part = '0' :: rest

/-- The digits of a number begin with a zero only if there is no other one. -/
theorem not_padded_toDigits (n : Nat) : ¬ Padded (Nat.toDigits 10 n) := by
  induction n using Nat.strongRecOn with
  | ind n ih =>
    rintro ⟨rest, more, padded⟩
    by_cases small : n < 10
    · rw [Nat.toDigits_of_lt_base small] at padded
      exact more (List.cons.inj padded).2.symm
    · have front := numeral_toDigits (n / 10)
      rw [Nat.toDigits_of_base_le (by decide) (Nat.le_of_not_lt small)] at padded
      obtain ⟨empty, -⟩ | ⟨others, leads, -⟩ := List.append_eq_cons_iff.1 padded
      · exact Nat.toDigits_ne_nil empty
      · rw [leads] at front
        by_cases alone : others = []
        · -- The front is a zero by itself, so the number has one digit.
          subst alone
          have zero : n / 10 = 0 := front.unique (.digit (by decide) rfl)
          omega
        · exact ih (n / 10) (by omega) ⟨others, alone, leads⟩

theorem toDigits_digit {c : Char} {d : Nat} (small : d < 10) (shown : c.toNat = '0'.toNat + d) :
    Nat.toDigits 10 d = [c] := by
  have same : d.digitChar = c := by
    rw [← Char.toNat_inj, Nat.toNat_digitChar_of_lt_ten small, shown]
    rfl
  rw [Nat.toDigits_of_lt_base small, same]

/-- A numeral without a zero in front is the digits of the number that it denotes. -/
theorem Numeral.toDigits_eq {part : List Char} {n : Nat} (denotes : Numeral part n)
    (bare : ¬ Padded part) :
    Nat.toDigits 10 n = part := by
  induction denotes with
  | digit small shown => exact toDigits_digit small shown
  | @more front n c d denotes small shown ih =>
    have digits : Nat.toDigits 10 n = front := by
      apply ih
      rintro ⟨rest, -, rfl⟩
      exact bare ⟨rest ++ [c], List.append_ne_nil_of_right_ne_nil rest (List.cons_ne_nil c []), rfl⟩
    have positive : 0 < n := by
      rw [Nat.pos_iff_ne_zero]
      rintro rfl
      rw [← digits] at bare
      exact bare ⟨[c], List.cons_ne_nil c [], rfl⟩
    rw [← Nat.toDigits_append_toDigits (by decide) positive small, digits,
      toDigits_digit small shown]

namespace Version

/-- The parts of the text are the digits of the components. -/
theorem split_text (v : Version) :
    Split v.text.toList (v.components.map fun c => Nat.toDigits 10 c.toNat) where
  joined := by rw [text, chars, String.toList_ofList]
  dotless part listed := by
    obtain ⟨c, -, rfl⟩ := List.mem_map.1 listed
    exact (numeral_toDigits c.toNat).dotless
  solid := by simp [components]

theorem parse_text (v : Version) : parse v.text = .ok v := by
  rw [parse_eq_ok_iff v.split_text, List.forall₂_map_left_iff]
  exact List.forall₂_same.2 fun c _ => numeral_toDigits c.toNat

/-- Numerals are the digits of the components that they denote if none of them is padded. -/
theorem eq_map_toDigits_iff {parts : List (List Char)} {cs : List UInt32}
    (denoted : List.Forall₂ (fun part c => Numeral part (UInt32.toNat c)) parts cs) :
    parts = cs.map (fun c => Nat.toDigits 10 c.toNat) ↔ ∀ part ∈ parts, ¬ Padded part := by
  constructor
  · rintro rfl part listed
    obtain ⟨c, -, rfl⟩ := List.mem_map.1 listed
    exact not_padded_toDigits c.toNat
  · intro bare
    induction denoted with
    | nil => rfl
    | cons denotes _ ih =>
      obtain ⟨here, later⟩ := List.forall_mem_cons.1 bare
      rw [List.map_cons, denotes.toDigits_eq here, ← ih later]

theorem text_eq_iff {text : String} {parts : List (List Char)} (split : Split text.toList parts)
    {v : Version} (read : parse text = .ok v) : v.text = text ↔ ∀ part ∈ parts, ¬ Padded part := by
  rw [← eq_map_toDigits_iff ((parse_eq_ok_iff split).1 read)]
  constructor
  · rintro rfl
    exact (split_iff.1 split).trans (split_iff.1 v.split_text).symm
  · rintro rfl
    rw [← String.toList_inj, ← split.joined, ← v.split_text.joined]

theorem text_injective : Function.Injective text := by
  intro v w same
  have read := parse_text v
  rw [same, parse_text w] at read
  exact (Except.ok.inj read).symm

theorem ofJson_compact (v : Version) : ofJson v.toJson.compact = .ok v := by
  have read : Json.Reader.text (Json.quoted v.text) = .ok (v.text, []) := by
    simpa using (Json.Reader.readBy_text v.text).reads [] [] Json.blank_nil
  have written : v.toJson.compact = String.ofList (Json.quoted v.text) := by
    rw [Json.compact, toJson, Json.chars]
  simp only [ofJson, written, String.toList_ofList, read, parse_text]
  rfl

/--
A version is read back from its text and from its JSON, and no two have the same text. Of all texts
that are read as a version, its own is the one in which no numeral is padded.
-/
theorem texts_round_trip :
    (∀ v : Version, parse v.text = .ok v ∧ ofJson v.toJson.compact = .ok v) ∧
      (∀ text v, parse text = .ok v → ∃ parts, Split text.toList parts ∧
        (v.text = text ↔ ∀ part ∈ parts, ¬ Padded part) ∧ parse v.text = .ok v) ∧
      ∀ v w : Version, v ≠ w → v.text ≠ w.text := by
  refine ⟨fun v => ⟨parse_text v, ofJson_compact v⟩, fun text v read => ?_,
    fun v w => text_injective.ne⟩
  have split : Split text.toList (text.toList.splitOn '.') := split_iff.2 rfl
  exact ⟨_, split, text_eq_iff split read, parse_text v⟩

/-- A padded text is read as the version of another text, which is read as this version again. -/
theorem padded_minor_round_trip :
    parse "3.010" = .ok ⟨10, none⟩ ∧ (⟨10, none⟩ : Version).text ≠ "3.010" ∧
      parse (⟨10, none⟩ : Version).text = .ok ⟨10, none⟩ := by
  have read : parse "3.010" = .ok ⟨10, none⟩ := by decide +kernel
  obtain ⟨parts, split, own, again⟩ := texts_round_trip.2.1 "3.010" ⟨10, none⟩ read
  refine ⟨read, fun same => ?_, again⟩
  have listed : ['0', '1', '0'] ∈ parts := by
    rw [split_iff.1 split]
    decide +kernel
  exact own.1 same ['0', '1', '0'] listed ⟨['1', '0'], List.cons_ne_nil _ _, rfl⟩

end Version

end VersionFloor
