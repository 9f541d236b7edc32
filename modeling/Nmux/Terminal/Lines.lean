import Nmux.Terminal.Text

/-! The lines of a pane as what text is typed into. The merge of a chunk keeps the line it is building apart
from the lines that are complete; what it leaves is one list of lines with the last one finished or not,
and whether it is finished is all the next chunk is told, by the column of the cursor. So typing goes on
over the ends of chunks. -/
namespace Nmux

/-- Lines, the last of them still open to more characters or finished. -/
structure LineBuffer where
  lines : List String
  unfinished : Bool
deriving DecidableEq, Repr

namespace LineBuffer

/-- The last line. -/
def last (buffer : LineBuffer) : String := buffer.lines.getLast?.getD ""

/-- One visible character. -/
def type (buffer : LineBuffer) (ch : Char) : LineBuffer :=
  if ch = '\n' then
    if buffer.unfinished then { buffer with unfinished := false }
    else { lines := buffer.lines ++ [""], unfinished := false }
  else if buffer.unfinished then
    { lines := buffer.lines.dropLast ++ [buffer.last.push ch], unfinished := true }
  else { lines := buffer.lines ++ ["".push ch], unfinished := true }

/-- Some visible text. -/
def typeText (buffer : LineBuffer) (text : List Char) : LineBuffer := text.foldl type buffer

/-- The column of the cursor. -/
def col (buffer : LineBuffer) : UInt32 := if buffer.unfinished then lineWidth buffer.last else 0

/-- There are lines, and a line that is not finished is not empty. -/
structure Typed (buffer : LineBuffer) : Prop where
  lines_ne : buffer.lines ≠ []
  open_ne : buffer.unfinished = true → buffer.last ≠ ""

variable {buffer : LineBuffer}

theorem last_append (lines : List String) (line : String) (unfinished : Bool) :
    (⟨lines ++ [line], unfinished⟩ : LineBuffer).last = line := by
  unfold last
  rw [List.getLast?_concat, Option.getD_some]

theorem push_ne (line : String) (ch : Char) : line.push ch ≠ "" := by
  intro h
  have hlength := congrArg String.length h
  rw [String.length_push] at hlength
  cases hlength

theorem type_typed (h : buffer.Typed) (ch : Char) : (buffer.type ch).Typed := by
  unfold type
  split
  · split
    · exact ⟨h.lines_ne, nofun⟩
    · exact ⟨List.append_ne_nil_of_right_ne_nil _ (List.cons_ne_nil _ _), nofun⟩
  · split
    · refine ⟨List.append_ne_nil_of_right_ne_nil _ (List.cons_ne_nil _ _), fun _ => ?_⟩
      rw [last_append]
      exact push_ne _ _
    · refine ⟨List.append_ne_nil_of_right_ne_nil _ (List.cons_ne_nil _ _), fun _ => ?_⟩
      rw [last_append]
      exact push_ne _ _

theorem typeText_typed (h : buffer.Typed) (text : List Char) : (buffer.typeText text).Typed := by
  induction text generalizing buffer with
  | nil => exact h
  | cons ch rest ih => exact ih (type_typed h ch)

theorem lineWidth_pos {line : String} (h : line ≠ "") : 0 < lineWidth line := by
  have hlength : 0 < line.toList.length := by
    rw [List.length_pos_iff]
    exact fun hnil => h (String.toList_eq_nil_iff.mp hnil)
  unfold lineWidth
  split
  case isTrue hsmall =>
    rw [UInt32.lt_iff_toNat_lt, UInt32.toNat_ofNat_of_lt' hsmall]
    exact hlength
  · decide

/-- The column says whether the last line is open. -/
theorem col_pos (h : buffer.Typed) : 0 < buffer.col ↔ buffer.unfinished = true := by
  unfold col
  split
  case isTrue hopen => exact iff_of_true (lineWidth_pos (h.open_ne hopen)) hopen
  case isFalse hfinished => exact iff_of_false (by decide) hfinished

/-- So the lines and the column are all there is to know. -/
theorem of_col (h : buffer.Typed) : (⟨buffer.lines, 0 < buffer.col⟩ : LineBuffer) = buffer := by
  have hopen : decide (0 < buffer.col) = buffer.unfinished := by
    rw [Bool.eq_iff_iff, decide_eq_true_iff]
    exact col_pos h
  rw [hopen]

/-- The size of a buffer: a character for each line end and each character of a line. -/
def size (buffer : LineBuffer) : Nat :=
  (buffer.lines.map fun line => line.length + 1).sum - if buffer.unfinished then 1 else 0

/-- A visible character makes the buffer larger by one. -/
theorem type_size (h : buffer.Typed) (ch : Char) : (buffer.type ch).size = buffer.size + 1 := by
  obtain ⟨lines, unfinished⟩ := buffer
  obtain ⟨before, line, rfl⟩ : ∃ before line, lines = before ++ [line] :=
    ⟨lines.dropLast, lines.getLast h.lines_ne, (List.dropLast_append_getLast h.lines_ne).symm⟩
  have hpush : (line.push ch).length = line.length + 1 := String.length_push ch
  have hempty : ("".push ch).length = 1 := String.length_push ch
  unfold type size
  cases unfinished with
  | true =>
    have hlast : (⟨before ++ [line], true⟩ : LineBuffer).last = line := last_append _ _ _
    split
    · simp only [if_true, List.map_append, List.sum_append, List.map_cons, List.map_nil, List.sum_cons,
        List.sum_nil]
      simp
      omega
    · simp only [if_true, hlast, List.dropLast_concat, List.map_append, List.sum_append, List.map_cons,
        List.map_nil, List.sum_cons, List.sum_nil, hpush]
      omega
  | false =>
    split
    · simp
      omega
    · simp only [Bool.false_eq_true, if_false, List.map_append, List.sum_append, List.map_cons,
        List.map_nil, List.sum_cons, List.sum_nil, hempty, if_true]
      omega

theorem typeText_size (h : buffer.Typed) (text : List Char) :
    (buffer.typeText text).size = buffer.size + text.length := by
  induction text generalizing buffer with
  | nil => rfl
  | cons ch rest ih =>
    have hrest := ih (type_typed h ch)
    rw [type_size h ch] at hrest
    rw [List.length_cons]
    show ((buffer.type ch).typeText rest).size = _
    omega

theorem typeText_append (first second : List Char) :
    buffer.typeText (first ++ second) = (buffer.typeText first).typeText second := List.foldl_append

end LineBuffer

/-! ### The merge of a chunk -/

namespace InterimMerge

open LineBuffer (last_append push_ne)

/-- The lines so far, with the one that is being built. -/
def buffer (merge : InterimMerge) : LineBuffer :=
  if merge.appending then ⟨merge.lines, true⟩
  else if merge.current = "" then ⟨merge.lines, false⟩
  else ⟨merge.lines ++ [merge.current], true⟩

/-- What holds while characters are merged: the column is that of the lines so far, and behind a newline
the last line is finished. -/
structure Sound (merge : InterimMerge) : Prop where
  lines_ne : merge.lines ≠ []
  cursorCol : merge.cursorCol = merge.buffer.col
  newline : merge.endedWithNewline = true → merge.buffer.unfinished = false

variable {merge : InterimMerge}

/-- **A character is typed** if it is visible. -/
theorem mergeChar_buffer (ch : Char) :
    (mergeChar merge ch).buffer = if Visible ch then merge.buffer.type ch else merge.buffer := by
  obtain ⟨lines, current, appending, cursorCol, sawOutput, endedWithNewline⟩ := merge
  unfold mergeChar
  by_cases hnewline : ch = '\n'
  · have hvisible : Visible ch = true := by rw [hnewline]; rfl
    rw [if_pos hnewline, if_pos hvisible]
    unfold buffer LineBuffer.type
    rw [if_pos hnewline]
    cases appending with
    | true => rfl
    | false =>
      by_cases hempty : current = ""
      · simp [hempty]
      · simp [hempty]
  · rw [if_neg hnewline]
    by_cases hcontrol : (ch ≠ '\t' && isControl ch) = true
    · have hinvisible : ¬ Visible ch = true := by
        simp only [Bool.and_eq_true, decide_eq_true_eq, ne_eq] at hcontrol
        simp [Visible, hnewline, hcontrol.1, hcontrol.2]
      rw [if_pos (by simpa using hcontrol), if_neg hinvisible]
      rfl
    · have hvisible : Visible ch = true := by
        simp only [Bool.and_eq_true, decide_eq_true_eq, ne_eq, not_and, Bool.not_eq_true] at hcontrol
        by_cases htab : ch = '\t'
        · simp [Visible, htab]
        · simp [Visible, hcontrol htab]
      rw [if_neg (by simpa using hcontrol), if_pos hvisible]
      unfold buffer LineBuffer.type LineBuffer.last
      rw [if_neg hnewline]
      cases appending with
      | true => rfl
      | false =>
        by_cases hempty : current = ""
        · simp [hempty]
        · simp [hempty]

theorem mergeChar_sound (h : merge.Sound) (ch : Char) : (mergeChar merge ch).Sound := by
  obtain ⟨lines, current, appending, cursorCol, sawOutput, endedWithNewline⟩ := merge
  obtain ⟨hlines, hcol, hended⟩ := h
  unfold mergeChar
  split
  · refine ⟨?_, rfl, fun _ => rfl⟩
    dsimp only
    split
    · exact hlines
    · exact List.append_ne_nil_of_right_ne_nil _ (List.cons_ne_nil _ _)
  · split
    · exact ⟨hlines, hcol, nofun⟩
    · cases appending with
      | true =>
        refine ⟨List.append_ne_nil_of_right_ne_nil _ (List.cons_ne_nil _ _), ?_, nofun⟩
        unfold buffer LineBuffer.col
        simp [last_append]
      | false =>
        refine ⟨hlines, ?_, nofun⟩
        unfold buffer LineBuffer.col
        simp [last_append]

theorem foldl_sound (h : merge.Sound) (text : List Char) : (text.foldl mergeChar merge).Sound := by
  induction text generalizing merge with
  | nil => exact h
  | cons ch rest ih => exact ih (mergeChar_sound h ch)

theorem foldl_buffer (text : List Char) :
    (text.foldl mergeChar merge).buffer = merge.buffer.typeText (text.filter Visible) := by
  induction text generalizing merge with
  | nil => rfl
  | cons ch rest ih =>
    rw [List.foldl_cons, ih, mergeChar_buffer, List.filter_cons]
    split <;> rfl

end InterimMerge

/-- **The merge of a chunk types its visible text** into the lines of a pane that has some. -/
theorem mergeInterimPtyOutput_eq {lines : List String} (h : lines ≠ []) (append : Bool) (output : List UInt8) :
    mergeInterimPtyOutput lines append output =
      (((⟨lines, append⟩ : LineBuffer).typeText (visibleText output)).lines,
        ((⟨lines, append⟩ : LineBuffer).typeText (visibleText output)).col) := by
  have hsome : lines.isEmpty = false := List.isEmpty_eq_false_iff.mpr h
  let merge : InterimMerge := {
    lines
    current := ""
    appending := append && !lines.isEmpty
    cursorCol := if append && !lines.isEmpty then lineWidth (lines.getLast?.getD "") else 0
    sawOutput := false
    endedWithNewline := false }
  have hbuffer : merge.buffer = ⟨lines, append⟩ := by
    unfold InterimMerge.buffer
    cases append <;> simp [merge, hsome]
  have hsound : merge.Sound := by
    refine ⟨h, ?_, nofun⟩
    rw [hbuffer]
    unfold LineBuffer.col LineBuffer.last
    cases append <;> simp [merge, hsome]
  have hdone := InterimMerge.foldl_sound hsound (normalizeNewlines (fromUtf8Lossy output))
  have htyped : ((normalizeNewlines (fromUtf8Lossy output)).foldl mergeChar merge).buffer =
      (⟨lines, append⟩ : LineBuffer).typeText (visibleText output) := by
    rw [InterimMerge.foldl_buffer, hbuffer]
    rfl
  rw [← htyped]
  show (if !InterimMerge.appending _ && (!(InterimMerge.current _).isEmpty ||
      (!InterimMerge.sawOutput _ && (InterimMerge.lines _).isEmpty)) then _ else _, _) = _
  generalize (normalizeNewlines (fromUtf8Lossy output)).foldl mergeChar merge = done at hdone
  obtain ⟨hlines, hcol, hended⟩ := hdone
  have hnonempty : done.lines.isEmpty = false := List.isEmpty_eq_false_iff.mpr hlines
  refine Prod.ext ?_ ?_
  · show (if !done.appending && (!done.current.isEmpty || (!done.sawOutput && done.lines.isEmpty)) then
      done.lines ++ [done.current] else done.lines) = done.buffer.lines
    unfold InterimMerge.buffer
    rw [hnonempty]
    cases done.appending with
    | true => rfl
    | false =>
      by_cases hempty : done.current = ""
      · simp [hempty]
      · simp [hempty]
  · show (if done.endedWithNewline then 0 else done.cursorCol) = done.buffer.col
    split
    case isTrue hnewline =>
      unfold LineBuffer.col
      rw [hended hnewline]
      rfl
    case isFalse => exact hcol

/-- The next chunk finds the lines and the column as the merge left them. -/
theorem mergeInterimPtyOutput_buffer {lines : List String} {append : Bool}
    (h : (⟨lines, append⟩ : LineBuffer).Typed) (output : List UInt8) :
    (⟨(mergeInterimPtyOutput lines append output).1,
      0 < (mergeInterimPtyOutput lines append output).2⟩ : LineBuffer) =
      (⟨lines, append⟩ : LineBuffer).typeText (visibleText output) := by
  rw [mergeInterimPtyOutput_eq h.lines_ne]
  exact LineBuffer.of_col (LineBuffer.typeText_typed h _)

end Nmux
