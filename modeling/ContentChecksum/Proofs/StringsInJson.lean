import ContentChecksum.Checksum.Json

namespace ContentChecksum

/-!
# Strings are read back from JSON

A string is written with an escape for each of its characters and read back escape by escape:

* `Json.unquoteOnto_escape` — reading takes the written form of one character off the front, whatever
  follows it.  Control characters without a letter of their own are the only ones that go through
  hexadecimal digits (`Json.unit?_digits`);
* `Json.readHead?_quote` — so the written form of a string is read as that string, to its end;
* `Checksum.ofJson_toJson` — reading the JSON text of a checksum never fails, and comes down to
  reading its canonical form.
-/

namespace Json

/-- The four digits that stand for a control character make its number. -/
theorem unit?_digits {n : Nat} (h : n < 0x20) :
    unit? '0' '0' (Hex.digit (n / 16)) (Hex.digit (n % 16)) = some n := by
  have hall : ∀ m : Fin 0x20,
      unit? '0' '0' (Hex.digit (m.val / 16)) (Hex.digit (m.val % 16)) = some m.val := by decide
  exact hall ⟨n, h⟩

/-- A character that needs no escape is taken as it is. -/
theorem unquoteOnto_plain {c : Char} (hquote : c ≠ '"') (hslash : c ≠ '\\')
    (hcontrol : ¬ c.toNat < 0x20) (seen rest : List Char) :
    unquoteOnto seen (c :: rest) = unquoteOnto (c :: seen) rest := by
  rw [unquoteOnto]
  · exact if_neg fun h => h.elim hslash hcontrol
  · exact hquote
  · intro a b c' d rest' hc
    exact absurd hc hslash
  · intro c' rest' hc
    exact absurd hc hslash

/-- **One character.** Its written form is read as the character, whatever follows. -/
theorem unquoteOnto_escape (seen : List Char) (c : Char) (rest : List Char) :
    unquoteOnto seen (escape c ++ rest) = unquoteOnto (c :: seen) rest := by
  have hc : ∀ n, c.toNat = n → Char.ofNat n = c := fun n hn => by rw [← hn, Char.ofNat_toNat]
  unfold escape
  split
  case h_6 hquote hslash _ _ _ =>
    split
    · rename_i h
      rw [← hc _ h]
      rfl
    · split
      · rename_i h
        rw [← hc _ h]
        rfl
      · split
        · rename_i h
          -- the number is below the surrogates, so it is a character by itself
          show unquoteOnto seen ('\\' :: 'u' :: '0' :: '0' :: _ :: _ :: rest) = _
          have hlow : isLowUnit c.toNat = false := by simp [isLowUnit]; omega
          have hhigh : isHighUnit c.toNat = false := by simp [isHighUnit]; omega
          rw [unquoteOnto, unit?_digits h]
          simp only [hlow, hhigh, Bool.false_eq_true, ↓reduceIte, hc _ rfl]
        · exact unquoteOnto_plain hquote hslash ‹_› seen rest
  all_goals rfl

/-- A whole string, up to its closing quote. -/
theorem unquoteOnto_quote (seen text rest : List Char) :
    unquoteOnto seen (text.flatMap escape ++ '"' :: rest) = some (seen.reverse ++ text, rest) := by
  induction text generalizing seen with
  | nil => rw [List.flatMap_nil, List.nil_append, unquoteOnto, List.append_nil]
  | cons c text ih =>
    rw [List.flatMap_cons, List.append_assoc, unquoteOnto_escape, ih, List.reverse_cons,
      List.append_assoc, List.singleton_append]

/-- **What is written is read back.** -/
theorem readHead?_quote (text : List Char) : readHead? (quote text) = some (.string text, []) := by
  have hread : unquote? (text.flatMap escape ++ ['"']) = some (text, []) :=
    unquoteOnto_quote [] text []
  rw [readHead?, quote, List.cons_append, List.dropWhile_cons_of_neg (by decide)]
  show (unquote? (text.flatMap escape ++ ['"'])).map _ = _
  rw [hread]
  rfl

end Json

namespace Checksum

/-- The JSON text of a checksum is always read, and as its canonical form is. -/
theorem ofJson_toJson (c : Checksum) : ofJson c.toJson = .ok (parse c.canonical) := by
  rw [ofJson, toJson, String.toList_ofList, Json.readHead?_quote]
  simp

end Checksum

end ContentChecksum
