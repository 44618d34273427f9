import ContentChecksum.Proofs.MixedReading
import ContentChecksum.Proofs.NormalForms
import ContentChecksum.Proofs.ReplacementCharacters
import ContentChecksum.Proofs.StreamChecksum

namespace ContentChecksum

/-!
# The text path and the stream path

A text is hashed in canonical form; a stream is hashed with nothing changed but its line breaks.
This file says on which texts the two agree:

* `Newline.collapse_encode` — rewriting the line breaks in the bytes of a text gives the bytes of
  the text with its line breaks unified, since UTF-8 writes CR and LF as themselves and no other
  character with a byte of theirs;
* `Text.canonical_eq_unify_iff` — the canonical form goes no further than unifying line breaks
  exactly if the text is `Settled`: no replacement character, and composed already;
* `Text.canonicalBytes_eq_collapse_iff` — so this is when the two paths hash the same bytes.  A
  source may hand out the text in any way, by `Source.drain_wrap` and `pullAll_wrap`.
-/

/-! ### UTF-8 -/

namespace Utf8

/-- A byte below 0x80 stands for the character with its number, and for no other. -/
theorem toNat_eq_of_mem_utf8EncodeChar {c : Char} {b : UInt8} (hb : b ∈ String.utf8EncodeChar c)
    (hlt : b.toNat < 0x80) : c.toNat = b.toNat := by
  have hmarked : ∀ k, 0x80 ≤ k → k < 0x100 → b ≠ UInt8.ofNat k := by
    rintro k hle hk rfl
    rw [UInt8.toNat_ofNat'] at hlt
    omega
  simp only [String.utf8EncodeChar, Char.toNat_val] at hb
  split at hb
  · rw [List.mem_singleton] at hb
    rw [hb, UInt8.toNat_ofNat']
    omega
  -- In the longer forms every byte carries a mark that makes it 0x80 or more.
  · refine absurd hb ?_
    split
    · simp only [List.mem_cons, List.not_mem_nil, or_false, not_or]
      exact ⟨hmarked _ (by omega) (by omega), hmarked _ (by omega) (by omega)⟩
    · split
      · simp only [List.mem_cons, List.not_mem_nil, or_false, not_or]
        exact ⟨hmarked _ (by omega) (by omega), hmarked _ (by omega) (by omega),
          hmarked _ (by omega) (by omega)⟩
      · simp only [List.mem_cons, List.not_mem_nil, or_false, not_or]
        exact ⟨hmarked _ (by omega) (by omega), hmarked _ (by omega) (by omega),
          hmarked _ (by omega) (by omega), hmarked _ (by omega) (by omega)⟩

/-- Different texts have different bytes. -/
theorem encode_inj {xs ys : List Char} : encode xs = encode ys ↔ xs = ys := by
  refine ⟨fun h => ?_, fun h => by rw [h]⟩
  have hdecode := congrArg decode? h
  rw [decode?_encode, decode?_encode] at hdecode
  exact Option.some.inj hdecode

end Utf8

/-! ### Line breaks before and after encoding -/

namespace Newline

/-- No character but CR is written with a CR byte. -/
theorem cr_not_mem_utf8EncodeChar {c : Char} (hc : c ≠ '\r') : cr ∉ String.utf8EncodeChar c := by
  intro hmem
  have hnat := Utf8.toNat_eq_of_mem_utf8EncodeChar hmem (by decide)
  exact hc (Char.toNat_inj.1 hnat)

/-- Bytes that begin with LF are those of a text that begins with LF. -/
theorem head?_of_head?_encode {text : List Char} (h : (Utf8.encode text).head? = some lf) :
    text.head? = some '\n' := by
  cases text with
  | nil => simp at h
  | cons c text =>
    obtain ⟨b, bs, hbytes⟩ := List.exists_cons_of_ne_nil (String.utf8EncodeChar_ne_nil (c := c))
    have hb : b = lf := by
      rw [Utf8.encode_cons, hbytes] at h
      exact Option.some.inj h
    have hmem : lf ∈ String.utf8EncodeChar c := by rw [hbytes, hb]; exact List.mem_cons_self
    have hnat := Utf8.toNat_eq_of_mem_utf8EncodeChar hmem (by decide)
    rw [List.head?_cons, Char.toNat_inj.1 (hnat.trans rfl : c.toNat = '\n'.toNat)]

/-- **Bytes and characters.** It makes no difference whether line breaks are rewritten in a text or
    in its bytes. -/
theorem collapse_encode (text : List Char) :
    collapse (Utf8.encode text) = Utf8.encode (unify text) := by
  induction text with
  | nil => rfl
  | cons c text ih =>
    by_cases hc : c = '\r'
    · subst hc
      show collapse (cr :: Utf8.encode text) = _
      by_cases hlf : text.head? = some '\n'
      -- The CR of a pair adds nothing to what becomes of its LF, on either side.
      · obtain ⟨rest, rfl⟩ := List.head?_eq_some_iff.1 hlf
        have hbytes : Utf8.encode ('\n' :: rest) = lf :: Utf8.encode rest := rfl
        rw [hbytes, collapse_cons (by decide)] at ih
        rw [hbytes, collapse_pair, unify_crlf, ih, unify_cons (by decide)]
      · have hhead : (Utf8.encode text).head? ≠ some lf := fun h => hlf (head?_of_head?_encode h)
        have hnext : ∀ rest, text ≠ '\n' :: rest := fun rest h => hlf (by rw [h]; rfl)
        rw [collapse_cr hhead, unify_cr hnext, ih]
        rfl
    · rw [Utf8.encode_cons, collapse_append (cr_not_mem_utf8EncodeChar hc), ih, unify_cons hc,
        Utf8.encode_cons]

end Newline

/-! ### When unifying line breaks is all there is to do -/

namespace Text

/-- With its line breaks unified the text has no replacement character, and composing leaves it as
    it is. -/
def Settled (text : List Char) : Prop :=
  replacement ∉ Newline.unify text ∧ Unicode.nfc (Newline.unify text) = Newline.unify text

instance (text : List Char) : Decidable (Settled text) :=
  inferInstanceAs (Decidable (_ ∧ _))

/-- No table names the replacement character. -/
theorem inert_replacement : Unicode.Inert replacement where
  primary := by decide +kernel
  excluded := by decide +kernel
  singleton := by decide +kernel
  hangul := by unfold Unicode.Hangul.Spans; decide

/-- The replacement characters are gone for good: composing makes no new ones. -/
theorem replacement_not_mem_canonical (text : List Char) : replacement ∉ canonical text := by
  intro hmem
  have hclean := inert_replacement.mem_of_mem_nfc hmem
  rw [clean, List.mem_filter] at hclean
  simp at hclean

/-- A text without replacement characters is cleaned by unifying its line breaks. -/
theorem clean_eq_unify {text : List Char} (h : replacement ∉ Newline.unify text) :
    clean text = Newline.unify text :=
  strip_eq_self h

theorem canonical_eq_unify_iff (text : List Char) :
    canonical text = Newline.unify text ↔ Settled text := by
  constructor
  · intro h
    have hnot : replacement ∉ Newline.unify text := h ▸ replacement_not_mem_canonical text
    rw [canonical, clean_eq_unify hnot] at h
    exact ⟨hnot, h⟩
  · rintro ⟨hnot, hnfc⟩
    rw [canonical, clean_eq_unify hnot, hnfc]

/-- The bytes that are hashed for a text are its bytes with their line breaks rewritten exactly if
    the text is settled. -/
theorem canonicalBytes_eq_collapse_iff (text : List Char) :
    canonicalBytes text = Newline.collapse (Utf8.encode text) ↔ Settled text := by
  rw [canonicalBytes, Newline.collapse_encode, Utf8.encode_inj, canonical_eq_unify_iff]

end Text

/-! ### The two paths -/

namespace Checksum

open Newline.UnifyingReader in
/-- **Text and stream.** A source hands out the bytes of a text, in pieces of any sizes and with any
    interruptions, and its line breaks are unified on the way.  Everything that comes out, in chunks
    of whatever size or byte by byte, is what is hashed for the text exactly if the text is settled;
    and then the two checksums are the same. -/
theorem stream_agrees_with_text_iff (text : String) (s : Source)
    (hcontent : Script.content s.steps = Utf8.encode text.toList)
    (hfault : Script.fault? s.steps = none) :
    (∀ (n : Nat) (hn : 0 < n), Text.canonicalBytes text.toList =
        (Reader.drain n hn (· ++ ·) [] (wrap s)).value ↔ Text.Settled text.toList) ∧
    (Text.canonicalBytes text.toList = (pullAll (wrap s)).value ↔ Text.Settled text.toList) ∧
    (Text.Settled text.toList → (Checksum.ofReader true s).1 = .ok (Checksum.ofText text)) := by
  have hiff := Text.canonicalBytes_eq_collapse_iff text.toList
  rw [← hcontent] at hiff
  refine ⟨fun n hn => ?_, ?_, fun hsettled => ?_⟩
  · rw [Source.drain_wrap hn Reader.seamless_append]
    exact hiff
  · rw [pullAll_wrap]
    exact hiff
  · rw [ofReader_source, hfault, Checksum.ofText, hiff.2 hsettled]
    rfl

/-- A composed letter whose two bytes come in different pieces, with an interruption between them,
    and a pair cut in two. -/
theorem stream_agrees_with_text_of_pieces :
    let s : Source := .ofSteps [.data [0xc3], .fail ⟨.interrupted, ""⟩, .data [0xa9, 0x0d],
      .data [0x0a]]
    Script.content s.steps = Utf8.encode "é\r\n".toList ∧ Script.fault? s.steps = none ∧
      (Checksum.ofReader true s).1 = .ok (Checksum.ofText "é\r\n") := by
  intro s
  have hcontent : Script.content s.steps = Utf8.encode "é\r\n".toList := by decide +kernel
  have hfault : Script.fault? s.steps = none := by decide
  have hsettled : Text.Settled "é\r\n".toList := by decide +kernel
  exact ⟨hcontent, hfault, (stream_agrees_with_text_iff _ s hcontent hfault).2.2 hsettled⟩

-- A letter and its accent are composed in a text, and left alone in a stream.
example : ¬ Text.Settled ['e', Char.ofNat 0x0301] := by decide +kernel

end Checksum

end ContentChecksum
