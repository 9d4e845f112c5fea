import Mathlib

/-!
Line-framed files: records written one a line and read back with
`BufRead::lines`.

`lines_unlines_append` is the framing fact: whole lines read back as they were
written, whatever text follows them, and `lines_unterminated` says what becomes
of a last line without its newline. `take_unlines` is the other half of torn
writes: what a write that stopped early has left in the file.
-/

namespace Apex.Lines

open List

/-- The UTF-8 length of a text. -/
def byteLength (text : List Char) : Nat :=
  (text.map Char.utf8Size).sum

@[simp] theorem byteLength_nil : byteLength [] = 0 := rfl

@[simp] theorem byteLength_append (first second : List Char) :
    byteLength (first ++ second) = byteLength first + byteLength second := by
  simp [byteLength]

/-- The longest beginning of a text that has at most so many bytes. -/
def takeBytes : Nat → List Char → List Char
  | _, [] => []
  | budget, c :: rest =>
      if c.utf8Size ≤ budget then c :: takeBytes (budget - c.utf8Size) rest else []

/-- Cutting a text back to the length of a beginning leaves that beginning. -/
theorem takeBytes_append (kept lost : List Char) :
    takeBytes (byteLength kept) (kept ++ lost) = kept := by
  induction kept with
  | nil =>
    cases lost with
    | nil => rfl
    | cons c rest => simp [takeBytes, Nat.ne_of_gt (Char.utf8Size_pos c)]
  | cons c rest ih =>
    have length : byteLength (c :: rest) = c.utf8Size + byteLength rest := by simp [byteLength]
    rw [length, cons_append, takeBytes, if_pos (Nat.le_add_right _ _), Nat.add_sub_cancel_left, ih]

/-- A text of one record a line. -/
def unlines (records : List (List Char)) : List Char :=
  records.flatMap (· ++ ['\n'])

@[simp] theorem unlines_nil : unlines [] = [] := rfl

@[simp] theorem unlines_append (first second : List (List Char)) :
    unlines (first ++ second) = unlines first ++ unlines second :=
  flatMap_append

theorem byteLength_unlines_cons (record : List Char) (rest : List (List Char)) :
    byteLength (unlines (record :: rest)) = byteLength record + 1 + byteLength (unlines rest) := by
  simp only [unlines, flatMap_cons, byteLength_append]
  rfl

theorem byteLength_unlines_replicate (count : Nat) (record : List Char) :
    byteLength (unlines (List.replicate count record)) = count * (byteLength record + 1) := by
  induction count with
  | zero => simp
  | succ count ih =>
    rw [replicate_succ, byteLength_unlines_cons, ih, Nat.succ_mul, Nat.add_comm]

/-- `BufRead::lines`: each line without its newline or carriage return and
newline; what follows the last newline is a line unless it is empty. -/
def lines : List Char → List (List Char)
  | [] => []
  | '\n' :: rest => [] :: lines rest
  | '\r' :: '\n' :: rest => [] :: lines rest
  | c :: rest =>
      match lines rest with
      | [] => [[c]]
      | line :: others => (c :: line) :: others

example : lines "a\n\nb\r\nc".toList = ["a".toList, [], "b".toList, "c".toList] := by decide

/-- A text that fits on one line: it holds neither newline nor carriage
return. -/
def IsLine (text : List Char) : Prop :=
  ∀ c ∈ text, c ≠ '\n' ∧ c ≠ '\r'

theorem lines_cons {c : Char} (newline : c ≠ '\n') (ret : c ≠ '\r') (rest : List Char) :
    lines (c :: rest) =
      match lines rest with
      | [] => [[c]]
      | line :: others => (c :: line) :: others := by
  rw [lines.eq_def]
  split
  · next impossible => cases impossible
  · next same => exact absurd (List.cons.inj same).1 newline
  · next same => exact absurd (List.cons.inj same).1 ret
  · next same =>
      obtain ⟨rfl, rfl⟩ := List.cons.inj same
      rfl

theorem lines_line_append {line : List Char} (isLine : IsLine line) (rest : List Char) :
    lines (line ++ '\n' :: rest) = line :: lines rest := by
  induction line with
  | nil => rfl
  | cons c others ih =>
    obtain ⟨plain, later⟩ := forall_mem_cons.mp isLine
    rw [cons_append, lines_cons plain.1 plain.2, ih later]

/-- Whole lines read back as they were written, whatever follows them. -/
theorem lines_unlines_append {records : List (List Char)} (isLines : ∀ r ∈ records, IsLine r)
    (rest : List Char) : lines (unlines records ++ rest) = records ++ lines rest := by
  induction records with
  | nil => rfl
  | cons record others ih =>
    obtain ⟨isLine, later⟩ := forall_mem_cons.mp isLines
    have split :
        unlines (record :: others) ++ rest = record ++ '\n' :: (unlines others ++ rest) := by
      simp [unlines]
    rw [split, lines_line_append isLine, ih later, cons_append]

theorem lines_unlines {records : List (List Char)} (isLines : ∀ r ∈ records, IsLine r) :
    lines (unlines records) = records := by
  simpa [lines] using lines_unlines_append isLines []

/-- A last line without its newline is a line. -/
theorem lines_unterminated {line : List Char} (isLine : IsLine line) (nonempty : line ≠ []) :
    lines line = [line] := by
  induction line with
  | nil => exact absurd rfl nonempty
  | cons c others ih =>
    obtain ⟨plain, later⟩ := forall_mem_cons.mp isLine
    rw [lines_cons plain.1 plain.2]
    by_cases last : others = []
    · subst last; rfl
    · rw [ih later last]

/-- What a beginning of a text of lines consists of: some whole lines, and
perhaps a part of the next one. The part is the whole of it exactly where the
text is cut off right before a newline. -/
theorem take_unlines (records : List (List Char)) (cut : Nat) :
    ∃ whole rest, records = whole ++ rest ∧
      ((unlines records).take cut = unlines whole ∨
        ∃ record later kept lost, rest = record :: later ∧ record = kept ++ lost ∧ kept ≠ [] ∧
          (unlines records).take cut = unlines whole ++ kept ∧
          (lost = [] → (unlines records)[cut]? = some '\n')) := by
  induction records generalizing cut with
  | nil => exact ⟨[], [], rfl, .inl (by simp)⟩
  | cons record others ih =>
    have split : unlines (record :: others) = record ++ '\n' :: unlines others := by
      simp [unlines]
    rcases Nat.lt_or_ge record.length cut with past | within
    · -- The cut is behind the first newline.
      obtain ⟨n, rfl⟩ : ∃ n, cut = record.length + (n + 1) := ⟨cut - record.length - 1, by omega⟩
      have front : (unlines (record :: others)).take (record.length + (n + 1)) =
          record ++ '\n' :: (unlines others).take n := by
        rw [split, take_length_add_append, take_succ_cons]
      obtain ⟨whole, rest, rfl, done | ⟨next, later, kept, lost, rfl, rfl, some, torn, last⟩⟩ :=
        ih n
      · refine ⟨record :: whole, rest, rfl, .inl ?_⟩
        rw [front, done]
        simp [unlines]
      · refine ⟨record :: whole, _, rfl,
          .inr ⟨_, later, kept, lost, rfl, rfl, some, ?_, ?_⟩⟩
        · rw [front, torn]
          simp [unlines]
        · intro all
          rw [split, List.getElem?_append_right (by omega), Nat.add_sub_cancel_left,
            List.getElem?_cons_succ]
          exact last all
    · rcases Nat.eq_zero_or_pos cut with rfl | positive
      · exact ⟨[], record :: others, rfl, .inl (by simp)⟩
      · have front : (unlines (record :: others)).take cut = record.take cut := by
          rw [split, take_append_of_le_length within]
        refine ⟨[], record :: others, rfl, .inr ⟨record, others, record.take cut,
          record.drop cut, rfl, (take_append_drop cut record).symm, ?_, by simpa using front,
          ?_⟩⟩
        · intro none
          have length := congrArg List.length none
          rw [length_take, length_nil] at length
          omega
        · intro all
          have exact : cut = record.length := by
            have := drop_eq_nil_iff.mp all
            omega
          rw [split, exact, List.getElem?_append_right (Nat.le_refl _), Nat.sub_self]
          rfl

end Apex.Lines
