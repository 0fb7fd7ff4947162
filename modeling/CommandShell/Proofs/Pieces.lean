import CommandShell.Proofs.InputLines
import Mathlib.Data.List.Basic

namespace CommandShell

/-! The pieces that the marks in a list end, and what stands behind the last mark. Whether bytes
are cut at a mark before they are read or after, the pieces are the same, although bytes that
are not text become other characters. -/

/-! ## Pieces -/

namespace Cut

variable {α : Type} [DecidableEq α]

/-- The pieces that a mark ends. -/
def closed (mark : α) (list : List α) : List (List α) :=
  (all mark list).dropLast

/-- What stands behind the last mark. -/
def remainder (mark : α) (list : List α) : List α :=
  (all mark list).getLastD []

variable {mark : α}

theorem closed_of_not_mem {piece : List α} (free : mark ∉ piece) : closed mark piece = [] := by
  rw [closed, all_of_not_mem free, List.dropLast_singleton]

theorem remainder_of_not_mem {piece : List α} (free : mark ∉ piece) :
    remainder mark piece = piece := by
  rw [remainder, all_of_not_mem free, List.getLastD_cons, List.getLastD_nil]

theorem closed_append (before after : List α) :
    closed mark (before ++ mark :: after) = all mark before ++ closed mark after := by
  rw [closed, all_append, List.dropLast_append_of_ne_nil (all_ne_nil mark after), closed]

theorem remainder_append (before after : List α) :
    remainder mark (before ++ mark :: after) = remainder mark after := by
  rw [remainder, all_append, List.getLastD_eq_getLast?,
    List.getLast?_append_of_ne_nil _ (all_ne_nil mark after), remainder, List.getLastD_eq_getLast?]

theorem closed_append_mark {piece : List α} (free : mark ∉ piece) (rest : List α) :
    closed mark (piece ++ mark :: rest) = piece :: closed mark rest := by
  rw [closed_append, all_of_not_mem free, List.singleton_append]

theorem not_mem_of_mem_closed {list piece : List α} (member : piece ∈ closed mark list) :
    mark ∉ piece :=
  not_mem_of_mem_all (List.dropLast_subset _ member)

theorem not_mem_remainder (mark : α) (list : List α) : mark ∉ remainder mark list := by
  induction list using pieces_induction mark with
  | last piece free => rwa [remainder_of_not_mem free]
  | more piece rest free induction => rwa [remainder_append]

/-- The pieces, each with its mark, and what stands behind them are the list. -/
theorem flatMap_closed_append (mark : α) (list : List α) :
    (closed mark list).flatMap (· ++ [mark]) ++ remainder mark list = list := by
  induction list using pieces_induction mark with
  | last piece free => rw [closed_of_not_mem free, remainder_of_not_mem free]; rfl
  | more piece rest free induction =>
    rw [closed_append_mark free, remainder_append, List.flatMap_cons, List.append_assoc, induction,
      List.append_assoc, List.singleton_append]

end Cut

/-! ## Reading pieces -/

namespace Utf8

section

variable {mark : UInt8} {character : Char}

theorem Denotes.all_decodeLossy (denotes : Denotes mark character) (bytes : Bytes) :
    Cut.all character (decodeLossy bytes) = (Cut.all mark bytes).map decodeLossy := by
  have free : ∀ {piece : Bytes}, mark ∉ piece → character ∉ decodeLossy piece :=
    fun free => mt (denotes.mem_decodeLossy_iff _).mp free
  induction bytes using Cut.pieces_induction mark with
  | last piece without =>
    rw [Cut.all_of_not_mem without, Cut.all_of_not_mem (free without), List.map_singleton]
  | more piece rest without induction =>
    rw [denotes.decodeLossy_append, Cut.all_append_mark without, Cut.all_append_mark (free without),
      induction, List.map_cons]

/-- Bytes may be cut before they are read or after. -/
theorem Denotes.closed_decodeLossy (denotes : Denotes mark character) (bytes : Bytes) :
    Cut.closed character (decodeLossy bytes) = (Cut.closed mark bytes).map decodeLossy := by
  rw [Cut.closed, denotes.all_decodeLossy, ← List.map_dropLast, Cut.closed]

theorem Denotes.remainder_decodeLossy (denotes : Denotes mark character) (bytes : Bytes) :
    Cut.remainder character (decodeLossy bytes) = decodeLossy (Cut.remainder mark bytes) := by
  rw [Cut.remainder, denotes.all_decodeLossy, List.getLastD_eq_getLast?, List.getLast?_map,
    Cut.remainder, List.getLastD_eq_getLast?]
  cases (Cut.all mark bytes).getLast? <;> rfl

theorem step_ne_nothing (byte : UInt8) (underway : Option Unfinished) :
    step byte underway ≠ ([], none) := by
  have fresh : stepFresh byte ≠ ([], none) := by
    unfold stepFresh
    split
    · simp
    · split <;> simp
  cases underway with
  | none => exact fresh
  | some unfinished =>
    unfold step
    dsimp only
    split
    · split <;> simp
    · simp

theorem decodeFrom_eq_nil {underway : Option Unfinished} {bytes : Bytes}
    (nothing : decodeFrom underway bytes = []) : bytes = [] ∧ underway = none := by
  induction bytes generalizing underway with
  | nil => cases underway with
    | none => exact ⟨rfl, rfl⟩
    | some => cases nothing
  | cons byte rest induction =>
    rw [decodeFrom_cons, List.append_eq_nil_iff] at nothing
    exact absurd (Prod.ext nothing.1 (induction nothing.2).2) (step_ne_nothing byte underway)

theorem decodeLossy_eq_nil_iff (bytes : Bytes) : decodeLossy bytes = [] ↔ bytes = [] := by
  constructor
  · exact fun nothing => (decodeFrom_eq_nil nothing).1
  · rintro rfl
    rfl

/-- A text ends in a character of ASCII if the bytes it was read from end in that of the
character. -/
theorem Denotes.getLast?_decodeLossy_iff (denotes : Denotes mark character) (bytes : Bytes) :
    (decodeLossy bytes).getLast? = some character ↔ bytes.getLast? = some mark := by
  induction bytes using Cut.pieces_induction mark with
  | last piece free =>
    have without := mt (denotes.mem_decodeLossy_iff piece).mp free
    exact ⟨fun ends => absurd (List.mem_of_getLast? ends) without,
      fun ends => absurd (List.mem_of_getLast? ends) free⟩
  | more piece rest free induction =>
    rw [denotes.decodeLossy_append, List.getLast?_append_of_ne_nil _ (List.cons_ne_nil _ _),
      List.getLast?_append_of_ne_nil _ (List.cons_ne_nil _ _)]
    by_cases empty : rest = []
    · subst empty
      exact iff_of_true rfl rfl
    · have filled := mt (decodeLossy_eq_nil_iff rest).mp empty
      rw [List.getLast?_cons_of_ne_nil filled, List.getLast?_cons_of_ne_nil empty]
      exact induction

end

end Utf8

namespace LineReader

/-- A carriage return may be taken from a line before it is read or after. -/
theorem textOf_eq (bytes : Bytes) :
    textOf bytes = Text.dropLastIf '\x0D' (Utf8.decodeLossy bytes) := by
  have ends := Utf8.denotes_carriageReturn.getLast?_decodeLossy_iff bytes
  rw [textOf, dropCarriageReturn, Text.dropLastIf]
  split
  next last =>
    rw [if_pos (ends.mpr last)]
    rcases List.getLast?_eq_some_iff.mp last with ⟨front, rfl⟩
    rw [List.dropLast_concat, Utf8.denotes_carriageReturn.decodeLossy_append]
    exact List.dropLast_concat.symm
  next other => rw [if_neg (mt ends.mp other)]

theorem remainder_of_endsLine {bytes : Bytes} (ends : EndsLine bytes) :
    Cut.remainder lineFeed bytes = [] := by
  induction bytes using Cut.pieces_induction lineFeed with
  | last piece free =>
    rw [Cut.remainder_of_not_mem free]
    rcases ends with empty | last
    · exact empty
    · exact absurd (List.mem_of_getLast? last) free
  | more piece rest free induction =>
    rw [Cut.remainder_append]
    exact induction ((endsLine_append_lineFeed piece rest).mp ends)

end LineReader

end CommandShell
