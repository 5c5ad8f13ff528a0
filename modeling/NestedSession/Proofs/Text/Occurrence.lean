import NestedSession.Proofs.Text.Incremental
import NestedSession.System.Path
import NestedSession.Text.Search

/-!
# Proofs/Text/Occurrence — what stands in a text stands in the octets

A lossy text stands beside its octets character by character (`Spells`): each character has the
octets that spell it, but a U+FFFD may have any.  So a part of the text without U+FFFD is spelled
by a part of the octets (`infix_of_infix_decodeLossy`); the other direction is that a decoder is in
step at every character spelled in full (`Decoder.push_encode`).

Octets that are read as a text and spelled again are the same octets exactly if they spell a text
(`Utf8.encode_lossy_eq_iff`); what spells none comes back with U+FFFD in it
(`Utf8.replacement_mem_lossy`).  A text behind octets changes nothing about that
(`Utf8.isText_append_encode_iff`), for a reader is in step again where a text begins.  So a path
seen from a directory spells a text exactly if it starts at the root, or if the directory spells one
(`Path.isText_joinText_iff`).
-/

namespace NestedSession

namespace Utf8

/-- Characters beside the octets they were read from. -/
inductive Spells : List Char → Octets → Prop
  | nil : Spells [] []
  | char {cs : List Char} {bs : Octets} (c : Char) (h : Spells cs bs) :
      Spells (c :: cs) (String.utf8EncodeChar c ++ bs)
  | junk {cs : List Char} {bs : Octets} (junk : Octets) (h : Spells cs bs) :
      Spells (replacement :: cs) (junk ++ bs)

/-- **What a lossy reader reads stands beside the octets.** -/
theorem spells_decodeLossy (bs : Octets) : Spells (decodeLossy bs) bs := by
  fun_induction decodeLossy bs with
  | case1 => exact .nil
  | case2 b bs ascii ih =>
    simpa [utf8EncodeChar_ofNat ascii] using Spells.char (Char.ofNat b.toNat) ih
  | case3 b bs ascii none ih => exact .junk [b] ih
  | case4 b bs ascii l hl tails ih =>
    have split : b :: bs = (b :: tails) ++ bs.drop tails.length := by
      rw [List.cons_append, l.tails_append_drop bs]
    rw [split]
    by_cases whole : tails.length = l.owed
    · rw [if_pos whole, ← utf8EncodeChar_codePoint hl (l.fits_tails bs) whole]
      exact .char _ ih
    · rw [if_neg whole]
      exact .junk (b :: tails) ih

/-- A cut between characters is a cut between octets. -/
theorem Spells.split {cs ds : List Char} {bs : Octets} (h : Spells (cs ++ ds) bs) :
    ∃ as zs, bs = as ++ zs ∧ Spells cs as ∧ Spells ds zs := by
  induction cs generalizing bs with
  | nil => exact ⟨[], bs, rfl, .nil, h⟩
  | cons c cs ih =>
    cases h with
    | char _ h =>
      obtain ⟨as, zs, rfl, left, right⟩ := ih h
      exact ⟨_, zs, (List.append_assoc ..).symm, .char c left, right⟩
    | junk junk h =>
      obtain ⟨as, zs, rfl, left, right⟩ := ih h
      exact ⟨_, zs, (List.append_assoc ..).symm, .junk junk left, right⟩

/-- Without U+FFFD, the octets are those that spell the characters. -/
theorem Spells.eq_flatMap {cs : List Char} {bs : Octets} (h : Spells cs bs)
    (clear : replacement ∉ cs) : bs = cs.flatMap String.utf8EncodeChar := by
  induction h with
  | nil => rfl
  | char c h ih => rw [List.flatMap_cons, ← ih fun hc => clear (List.mem_cons_of_mem _ hc)]
  | junk junk h => exact absurd List.mem_cons_self clear

/-- **A part of a lossy text, if it holds no U+FFFD, is spelled by a part of the octets.** -/
theorem infix_of_infix_decodeLossy {needle : List Char} {bs : Octets}
    (clear : replacement ∉ needle) (h : needle <:+: decodeLossy bs) :
    needle.flatMap String.utf8EncodeChar <:+: bs := by
  obtain ⟨before, after, eq⟩ := h
  have spells : Spells (before ++ needle ++ after) bs := eq ▸ spells_decodeLossy bs
  obtain ⟨front, zs, rfl, front_spells, -⟩ := spells.split
  obtain ⟨as, ms, rfl, -, middle⟩ := front_spells.split
  rw [← middle.eq_flatMap clear]
  exact ⟨as, zs, rfl⟩

end Utf8

namespace Decoder

open Utf8

variable {needle : String} {bs : Octets}

/-- **A marker is shown as soon as its octets were read**, and then stays. -/
theorem infix_text_push (h : encode needle <:+: bs) (d : Decoder) :
    needle.toList <:+: (d.push bs).text.toList := by
  by_cases empty : needle = ""
  · rw [empty]
    exact List.nil_infix
  · obtain ⟨before, after, rfl⟩ := h
    rw [push_append, push_append, push_encode _ empty]
    refine List.IsInfix.trans ?_ (prefix_text_push _ after).isInfix
    rw [String.toList_append]
    exact (List.suffix_append _ _).isInfix

/-- **No octet of a marker is held back.** -/
theorem pending_suffix_of_encode {before after : Octets} (nonempty : needle ≠ "") (d : Decoder) :
    (d.push (before ++ encode needle ++ after)).pending <:+ after := by
  rw [push_append, push_append, push_encode _ nonempty]
  exact pending_push_suffix (d := ⟨(d.push before).flush.text ++ needle, []⟩) trivial after

/-- **A marker is shown only if its octets were read.** -/
theorem infix_of_infix_text (clear : replacement ∉ needle.toList)
    (h : needle.toList <:+: (empty.push bs).text.toList) : encode needle <:+: bs := by
  obtain ⟨kept, split, shown⟩ := exists_kept bs
  rw [shown, lossy, String.toList_ofList] at h
  rw [split]
  exact (infix_of_infix_decodeLossy clear h).trans (List.prefix_append _ _).isInfix

/-- …also when no more octets will come. -/
theorem infix_of_infix_text_flush (clear : replacement ∉ needle.toList)
    (h : needle.toList <:+: (empty.push bs).flush.text.toList) : encode needle <:+: bs := by
  rw [text_flush_push, lossy, String.toList_ofList] at h
  exact infix_of_infix_decodeLossy clear h

end Decoder

/-! ## Which octets a text can stand for -/

namespace Utf8

/-- **Octets that spell a text.** -/
def IsText (bs : Octets) : Prop := ∃ text, bs = encode text

theorem isText_encode (text : String) : IsText (encode text) := ⟨text, rfl⟩

/-- **Read as a text and spelled again, octets are the same** exactly if they spell a text. -/
theorem encode_lossy_eq_iff {bs : Octets} : encode (lossy bs) = bs ↔ IsText bs := by
  constructor
  · exact fun same => ⟨lossy bs, same.symm⟩
  · rintro ⟨text, rfl⟩
    rw [Decoder.lossy_encode]

instance (bs : Octets) : Decidable (IsText bs) := decidable_of_iff _ encode_lossy_eq_iff

/-- What spells no text is read with a U+FFFD in it. -/
theorem replacement_mem_lossy {bs : Octets} (none : ¬ IsText bs) :
    replacement ∈ (lossy bs).toList := by
  by_contra clear
  rw [lossy, String.toList_ofList] at clear
  refine none (encode_lossy_eq_iff.mp ?_)
  rw [encode, lossy, String.toList_ofList]
  exact ((spells_decodeLossy bs).eq_flatMap clear).symm

/-- **A text is read as that text, whatever stands before it.** -/
theorem lossy_append_encode (bs : Octets) (text : String) :
    lossy (bs ++ encode text) = lossy bs ++ text := by
  by_cases none : text = ""
  · subst none
    simp [encode]
  · rw [← Decoder.text_flush_push, ← Decoder.text_flush_push, Decoder.push_append,
      Decoder.push_encode _ none, Decoder.flush_nil]

theorem isText_append_encode_iff {bs : Octets} {text : String} :
    IsText (bs ++ encode text) ↔ IsText bs := by
  rw [← encode_lossy_eq_iff, ← encode_lossy_eq_iff, lossy_append_encode, encode_append,
    List.append_cancel_right_eq]

end Utf8

namespace Path

open Utf8

theorem isText_joinText_iff {dir : Path} {p : String} :
    IsText (dir.joinText p) ↔ isAbsolute (encode p) = true ∨ IsText dir := by
  rw [joinText, join]
  split
  · next absolute => exact iff_of_true (isText_encode p) (.inl absolute)
  · next relative =>
    rw [or_iff_right relative]
    split
    · exact isText_append_encode_iff
    · have apart : dir ++ separator :: encode p = dir ++ encode ("/" ++ p) := by
        rw [encode_append]
        rfl
      rw [apart, isText_append_encode_iff]

end Path

end NestedSession
