import Nmux.Core.Keys
import Nmux.Lib.Run
import Nmux.Lib.Utf8
import Nmux.Tui.Partition

/-! The working directory that a program reports. The terminal library does not tell it, so the engine
looks for the report in the output itself, an operating system command with the number seven. An escape
byte inside of a command ends it only together with a backslash, so a command that is left open takes
the report that comes after it for its own text. -/
namespace Nmux.Ghostty

open Tui (fromUtf8 fromUtf8_utf8Bytes)

/-! ### The tracker -/

def oscBufferLimit : ℕ := 4096

structure Osc7Tracker where
  buffer : List UInt8
  active : Bool
  escapePending : Bool
  workingDirectory : Option String
deriving DecidableEq, Repr

namespace Osc7Tracker

/-- `Osc7Tracker::default`. -/
def default : Osc7Tracker := ⟨[], false, false, none⟩

def resetSequence (tracker : Osc7Tracker) : Osc7Tracker :=
  { tracker with buffer := [], active := false, escapePending := false }

/-- The working directory that a complete command tells, if it is a report. -/
def reported (buffer : List UInt8) : Option String :=
  if [0x37, 0x3b].isPrefixOf buffer then fromUtf8 (buffer.drop 2) else none

def complete (tracker : Osc7Tracker) : Osc7Tracker :=
  { tracker with
    workingDirectory := (reported tracker.buffer).or tracker.workingDirectory }.resetSequence

def pushOscByte (tracker : Osc7Tracker) (byte : UInt8) : Osc7Tracker :=
  let tracker := { tracker with buffer := tracker.buffer ++ [byte] }
  if tracker.buffer.length > oscBufferLimit then tracker.resetSequence else tracker

/-- `ingest_osc_byte` where no escape byte is pending. -/
def ingestOscText (tracker : Osc7Tracker) (byte : UInt8) : Osc7Tracker :=
  if byte = 0x07 then tracker.complete
  else if byte = 0x1b then { tracker with escapePending := true }
  else tracker.pushOscByte byte

def ingestOscByte (tracker : Osc7Tracker) (byte : UInt8) : Osc7Tracker :=
  if tracker.escapePending then
    if byte = 0x5c then tracker.complete
    else ingestOscText { tracker.pushOscByte 0x1b with escapePending := false } byte
  else tracker.ingestOscText byte

/-- One turn of the loop of `ingest`. -/
def ingestByte (tracker : Osc7Tracker) (byte : UInt8) : Osc7Tracker :=
  if tracker.active then tracker.ingestOscByte byte
  else if tracker.escapePending then
    if byte = 0x5d then { tracker with active := true, escapePending := false, buffer := [] }
    else { tracker with escapePending := byte == 0x1b }
  else if byte = 0x1b then { tracker with escapePending := true }
  else tracker

def ingest (tracker : Osc7Tracker) (bytes : List UInt8) : Osc7Tracker := Lib.run ingestByte tracker bytes

end Osc7Tracker

/-! ### Reports -/

/-- What ends an operating system command. -/
inductive OscTerminator where
  | bel | st
deriving DecidableEq, Repr

def OscTerminator.bytes : OscTerminator → List UInt8
  | .bel => [0x07]
  | .st => [0x1b, 0x5c]

/-- The bytes of a command are no escape byte and no bell. -/
def OscText (bytes : List UInt8) : Prop := 0x1b ∉ bytes ∧ 0x07 ∉ bytes

instance (bytes : List UInt8) : Decidable (OscText bytes) := inferInstanceAs (Decidable (_ ∧ _))

def osc7Report (payload : String) (terminator : OscTerminator) : List UInt8 :=
  [0x1b, 0x5d] ++ ([0x37, 0x3b] ++ utf8Bytes payload) ++ terminator.bytes

namespace Osc7Tracker

variable {tracker : Osc7Tracker} {bytes : List UInt8}

@[simp] theorem ingest_nil : tracker.ingest [] = tracker := rfl

theorem ingest_cons (byte : UInt8) (rest : List UInt8) :
    tracker.ingest (byte :: rest) = (tracker.ingestByte byte).ingest rest := rfl

theorem ingest_append (first rest : List UInt8) :
    tracker.ingest (first ++ rest) = (tracker.ingest first).ingest rest :=
  Lib.run_append ingestByte tracker first rest

theorem pushOscByte_fits {byte : UInt8} (h : tracker.buffer.length + 1 ≤ oscBufferLimit) :
    tracker.pushOscByte byte = { tracker with buffer := tracker.buffer ++ [byte] } := by
  unfold pushOscByte
  dsimp only
  rw [List.length_append, List.length_singleton, if_neg (by omega)]

theorem pushOscByte_full {byte : UInt8} (h : oscBufferLimit < tracker.buffer.length + 1) :
    tracker.pushOscByte byte = tracker.resetSequence := by
  unfold pushOscByte
  dsimp only
  rw [List.length_append, List.length_singleton, if_pos h]
  rfl

/-- Text outside of a command is passed over. -/
theorem ingest_idle (hactive : tracker.active = false) (hpending : tracker.escapePending = false)
    (h : 0x1b ∉ bytes) : tracker.ingest bytes = tracker := by
  induction bytes with
  | nil => rfl
  | cons byte rest ih =>
    have hbyte : byte ≠ 0x1b := fun heq => h (heq ▸ List.mem_cons_self)
    rw [ingest_cons, ingestByte, hactive, hpending, if_neg Bool.false_ne_true, if_neg Bool.false_ne_true,
      if_neg hbyte]
    exact ih fun hmem => h (List.mem_cons_of_mem _ hmem)

/-- Text of a command goes to the buffer while that has room; else the command is dropped. -/
theorem ingest_text (hactive : tracker.active = true) (hpending : tracker.escapePending = false)
    (h : OscText bytes) : tracker.ingest bytes =
      if tracker.buffer.length + bytes.length ≤ oscBufferLimit ∨ bytes = [] then
        { tracker with buffer := tracker.buffer ++ bytes }
      else tracker.resetSequence := by
  induction bytes generalizing tracker with
  | nil => rw [if_pos (.inr rfl), List.append_nil, ingest_nil]
  | cons byte rest ih =>
    have hrest : OscText rest := ⟨fun hmem => h.1 (List.mem_cons_of_mem _ hmem),
      fun hmem => h.2 (List.mem_cons_of_mem _ hmem)⟩
    have hbell : byte ≠ 0x07 := fun heq => h.2 (heq ▸ List.mem_cons_self)
    have hescape : byte ≠ 0x1b := fun heq => h.1 (heq ▸ List.mem_cons_self)
    have hstep : tracker.ingestByte byte = tracker.pushOscByte byte := by
      unfold ingestByte ingestOscByte ingestOscText
      rw [hactive, hpending, if_pos rfl, if_neg Bool.false_ne_true, if_neg hbell, if_neg hescape]
    rw [ingest_cons, hstep, List.length_cons]
    by_cases hfull : oscBufferLimit < tracker.buffer.length + 1
    · rw [pushOscByte_full hfull, if_neg (not_or.mpr ⟨by omega, List.cons_ne_nil _ _⟩)]
      exact ingest_idle rfl rfl hrest.1
    · have hpushed := @ih { tracker with buffer := tracker.buffer ++ [byte] } hactive hpending hrest
      dsimp only at hpushed
      rw [pushOscByte_fits (by omega), hpushed]
      rw [List.length_append, List.length_singleton, List.append_assoc, List.singleton_append]
      by_cases hfits : tracker.buffer.length + (rest.length + 1) ≤ oscBufferLimit
      · rw [if_pos (.inl (by omega)), if_pos (.inl hfits)]
      · have hne : rest ≠ [] := by
          rintro rfl
          exact hfits (by simpa using hfull)
        rw [if_neg (not_or.mpr ⟨by omega, hne⟩), if_neg (not_or.mpr ⟨hfits, List.cons_ne_nil _ _⟩)]
        rfl

/-- A terminator completes a command. -/
theorem ingest_terminator (hactive : tracker.active = true) (hpending : tracker.escapePending = false)
    (terminator : OscTerminator) : tracker.ingest terminator.bytes = tracker.complete := by
  cases terminator with
  | bel =>
    show tracker.ingestByte 0x07 = _
    unfold ingestByte ingestOscByte ingestOscText
    rw [hactive, hpending]
    rfl
  | st =>
    show (tracker.ingestByte 0x1b).ingestByte 0x5c = _
    have hescape : tracker.ingestByte 0x1b = { tracker with escapePending := true } := by
      unfold ingestByte ingestOscByte ingestOscText
      rw [hactive, hpending]
      rfl
    rw [hescape]
    unfold ingestByte ingestOscByte
    dsimp only
    rw [hactive]
    rfl

/-- Outside of a command a terminator does nothing. -/
theorem ingest_terminator_idle (hactive : tracker.active = false) (hpending : tracker.escapePending = false)
    (terminator : OscTerminator) : tracker.ingest terminator.bytes = tracker := by
  cases terminator with
  | bel => exact ingest_idle hactive hpending (by decide)
  | st =>
    obtain ⟨buffer, active, escapePending, workingDirectory⟩ := tracker
    obtain rfl : active = false := hactive
    obtain rfl : escapePending = false := hpending
    rfl

/-! ### A report -/

/-- A fresh introducer begins a command: none is open, or one that an escape byte is just dropping. -/
def TakesIntroducer (tracker : Osc7Tracker) : Prop :=
  tracker.active = false ∨ (tracker.escapePending = true ∧ oscBufferLimit ≤ tracker.buffer.length)

instance (tracker : Osc7Tracker) : Decidable tracker.TakesIntroducer :=
  inferInstanceAs (Decidable (_ ∨ _))

/-- What an open command has of its text, with an escape byte that does not end it. -/
def openText (tracker : Osc7Tracker) : List UInt8 :=
  tracker.buffer ++ if tracker.escapePending then [0x1b] else []

theorem ingest_introducer (h : tracker.TakesIntroducer) : tracker.ingest [0x1b, 0x5d] =
    { tracker with active := true, escapePending := false, buffer := [] } := by
  show (tracker.ingestByte 0x1b).ingestByte 0x5d = _
  by_cases hactive : tracker.active = true
  · obtain ⟨hpending, hfull⟩ := h.resolve_left (by rw [hactive]; decide)
    have hescape : tracker.ingestByte 0x1b = { tracker.resetSequence with escapePending := true } := by
      unfold ingestByte ingestOscByte
      rw [hactive, hpending, if_pos rfl, if_pos rfl, if_neg (by decide), pushOscByte_full (by omega)]
      rfl
    rw [hescape]
    rfl
  · rw [Bool.not_eq_true] at hactive
    have hescape : tracker.ingestByte 0x1b = { tracker with escapePending := true } := by
      unfold ingestByte
      rw [hactive, if_neg Bool.false_ne_true]
      by_cases hpending : tracker.escapePending = true
      · rw [if_pos hpending, if_neg (by decide)]
        rfl
      · rw [if_neg hpending]
        rfl
    rw [hescape]
    unfold ingestByte
    dsimp only
    rw [hactive]
    rfl

/-- An escape byte inside of a command is kept back, and one before it goes to the text. -/
theorem ingestByte_escape_open (h : ¬tracker.TakesIntroducer) :
    tracker.ingestByte 0x1b = { tracker with buffer := tracker.openText, escapePending := true } := by
  obtain ⟨hactive, hroom⟩ := not_or.mp h
  rw [Bool.not_eq_false] at hactive
  unfold ingestByte ingestOscByte openText
  rw [hactive, if_pos rfl]
  by_cases hpending : tracker.escapePending = true
  · have hfits := not_and.mp hroom hpending
    rw [if_pos hpending, if_neg (by decide), pushOscByte_fits (by omega), if_pos hpending]
    unfold ingestOscText
    rw [if_neg (by decide), if_pos rfl, hactive]
  · rw [if_neg hpending, if_neg hpending, List.append_nil]
    unfold ingestOscText
    rw [if_neg (by decide), if_pos rfl, hactive]

/-- An open command takes the introducer for its text, or is dropped for it. -/
theorem ingest_introducer_open (h : ¬tracker.TakesIntroducer) :
    tracker.ingest [0x1b, 0x5d] = { tracker with
        buffer := tracker.openText ++ [0x1b, 0x5d], escapePending := false } ∧
      tracker.openText.length + 2 ≤ oscBufferLimit ∨
    ((tracker.ingest [0x1b, 0x5d]).active = false ∧ (tracker.ingest [0x1b, 0x5d]).escapePending = false ∧
      (tracker.ingest [0x1b, 0x5d]).workingDirectory = tracker.workingDirectory) ∧
      oscBufferLimit < tracker.openText.length + 2 := by
  have hactive : tracker.active = true := Bool.eq_true_of_not_eq_false (not_or.mp h).1
  have hstep : tracker.ingest [0x1b, 0x5d] = ingestOscText
      { pushOscByte { tracker with buffer := tracker.openText, escapePending := true } 0x1b with
        escapePending := false } 0x5d := by
    rw [ingest_cons, ingestByte_escape_open h, ingest_cons, ingest_nil]
    unfold ingestByte ingestOscByte
    dsimp only
    rw [hactive, if_pos rfl, if_pos rfl, if_neg (by decide)]
  have hlength : (tracker.openText ++ [0x1b]).length = tracker.openText.length + 1 := List.length_append
  rw [hstep]
  unfold ingestOscText
  rw [if_neg (by decide), if_neg (by decide)]
  by_cases hescape : oscBufferLimit < tracker.openText.length + 1
  · -- the bracket goes to the buffer of a command that is dropped
    have hbracket := @pushOscByte_fits { tracker with buffer := [], active := false, escapePending := false }
      0x5d (show 0 + 1 ≤ oscBufferLimit by decide)
    rw [@pushOscByte_full { tracker with buffer := tracker.openText, escapePending := true } _ hescape]
    unfold resetSequence
    rw [hbracket]
    exact .inr ⟨⟨rfl, rfl, rfl⟩, by omega⟩
  · have hroom : tracker.openText.length + 1 ≤ oscBufferLimit := by omega
    rw [@pushOscByte_fits { tracker with buffer := tracker.openText, escapePending := true } _ hroom]
    by_cases hbracket : oscBufferLimit < tracker.openText.length + 1 + 1
    · rw [pushOscByte_full (by rw [hlength]; exact hbracket)]
      exact .inr ⟨⟨rfl, rfl, rfl⟩, by omega⟩
    · rw [pushOscByte_fits (by rw [hlength]; omega), List.append_assoc]
      exact .inl ⟨rfl, by omega⟩

/-- What an open command tells, if anything, with a report taken for the end of its text. -/
def overheard (tracker : Osc7Tracker) (payload : String) : Option String :=
  let text := tracker.openText ++ [0x1b, 0x5d] ++ ([0x37, 0x3b] ++ utf8Bytes payload)
  if text.length ≤ oscBufferLimit then reported text else none

theorem reported_payload (payload : String) : reported ([0x37, 0x3b] ++ utf8Bytes payload) = some payload :=
  fromUtf8_utf8Bytes payload

variable {payload : String}

theorem oscText_payload (h : OscText (utf8Bytes payload)) : OscText ([0x37, 0x3b] ++ utf8Bytes payload) := by
  refine ⟨fun hmem => ?_, fun hmem => ?_⟩
  · rcases List.mem_append.mp hmem with hmem | hmem
    · exact absurd hmem (by decide)
    · exact h.1 hmem
  · rcases List.mem_append.mp hmem with hmem | hmem
    · exact absurd hmem (by decide)
    · exact h.2 hmem

/-- A report whose introducer is taken is recognised. -/
theorem ingest_report_taken (h : tracker.TakesIntroducer) (htext : OscText (utf8Bytes payload))
    (hlimit : (utf8Bytes payload).length + 2 ≤ oscBufferLimit) (terminator : OscTerminator) :
    (tracker.ingest (osc7Report payload terminator)).workingDirectory = some payload := by
  have hfits : ([] : List UInt8).length + ([0x37, 0x3b] ++ utf8Bytes payload).length ≤ oscBufferLimit := by
    rw [List.length_append]
    show 0 + (2 + _) ≤ _
    omega
  unfold osc7Report
  rw [ingest_append, ingest_append, ingest_introducer h, ingest_text rfl rfl (oscText_payload htext),
    if_pos (.inl hfits), ingest_terminator rfl rfl]
  show (reported ([] ++ ([0x37, 0x3b] ++ utf8Bytes payload))).or tracker.workingDirectory = some payload
  rw [List.nil_append, reported_payload]
  rfl

/-- One that comes inside of an open command tells what that command does. -/
theorem ingest_report_open (h : ¬tracker.TakesIntroducer) (htext : OscText (utf8Bytes payload))
    (terminator : OscTerminator) : (tracker.ingest (osc7Report payload terminator)).workingDirectory =
      (tracker.overheard payload).or tracker.workingDirectory := by
  have hactive : tracker.active = true := Bool.eq_true_of_not_eq_false (not_or.mp h).1
  have hplain := oscText_payload htext
  unfold osc7Report overheard
  rw [ingest_append, ingest_append]
  have hlength : (tracker.openText ++ [0x1b, 0x5d]).length = tracker.openText.length + 2 :=
    List.length_append
  dsimp only
  rw [List.length_append, hlength]
  rcases ingest_introducer_open h with ⟨hopen, hroom⟩ | ⟨⟨hidle, hpending, hdirectory⟩, hfull⟩
  · have htextStep := @ingest_text { tracker with
      buffer := tracker.openText ++ [0x1b, 0x5d], escapePending := false } _ hactive rfl hplain
    dsimp only at htextStep
    rw [hlength] at htextStep
    rw [hopen, htextStep]
    have hne : [0x37, 0x3b] ++ utf8Bytes payload ≠ [] := List.cons_ne_nil _ _
    by_cases hfits : tracker.openText.length + 2 + ([0x37, 0x3b] ++ utf8Bytes payload).length ≤
        oscBufferLimit
    · rw [if_pos (.inl hfits), if_pos hfits, @ingest_terminator { tracker with
        buffer := _, escapePending := false } hactive rfl]
      rfl
    · rw [if_neg (not_or.mpr ⟨hfits, hne⟩), if_neg hfits, ingest_terminator_idle rfl rfl]
      rfl
  · rw [ingest_idle hidle hpending hplain.1, ingest_terminator_idle hidle hpending, hdirectory,
      if_neg (by omega)]
    rfl

/-- What an open command tells is longer than the report. -/
theorem overheard_ne (tracker : Osc7Tracker) : tracker.overheard payload ≠ some payload := by
  intro h
  unfold overheard reported at h
  dsimp only at h
  split at h
  case isFalse => cases h
  case isTrue =>
    split at h
    case isFalse => cases h
    case isTrue =>
      have hbytes : utf8Bytes payload = _ := Tui.fromUtf8_toUTF8 h
      have hlength := congrArg List.length hbytes
      rw [List.length_drop, List.length_append, List.length_append] at hlength
      simp only [List.length_append, List.length_cons, List.length_nil] at hlength
      omega

end Osc7Tracker

open Osc7Tracker

/-- The tracker of an engine after the chunks. -/
def trackerAfter (chunks : List (List UInt8)) : Osc7Tracker := chunks.foldl Osc7Tracker.ingest .default

/-- How the output is cut makes no difference. -/
theorem trackerAfter_eq (chunks : List (List UInt8)) :
    trackerAfter chunks = Osc7Tracker.default.ingest chunks.flatten := by
  unfold trackerAfter
  generalize Osc7Tracker.default = tracker
  induction chunks generalizing tracker with
  | nil => rfl
  | cons chunk rest ih => rw [List.foldl_cons, ih, List.flatten_cons, ingest_append]

/-- **When a report is recognised.** After output that ends in a complete report the working directory
is that of the report exactly when no earlier command is left open at its introducer, or when it is that
one already and the open command tells no other. -/
theorem workingDirectory_iff {chunks : List (List UInt8)} {earlier : List UInt8} {payload : String}
    {terminator : OscTerminator} (hchunks : chunks.flatten = earlier ++ osc7Report payload terminator)
    (htext : OscText (utf8Bytes payload)) (hlimit : (utf8Bytes payload).length + 2 ≤ oscBufferLimit) :
    (trackerAfter chunks).workingDirectory = some payload ↔
      (Osc7Tracker.default.ingest earlier).TakesIntroducer ∨
        ((Osc7Tracker.default.ingest earlier).workingDirectory = some payload ∧
          (Osc7Tracker.default.ingest earlier).overheard payload = none) := by
  rw [trackerAfter_eq, hchunks, ingest_append]
  generalize Osc7Tracker.default.ingest earlier = tracker
  by_cases htaken : tracker.TakesIntroducer
  · exact iff_of_true (ingest_report_taken htaken htext hlimit terminator) (.inl htaken)
  · rw [ingest_report_open htaken htext, or_iff_right htaken]
    cases hoverheard : tracker.overheard payload with
    | none => exact (and_iff_left rfl).symm
    | some told =>
      refine iff_of_false (fun h => @overheard_ne payload tracker ?_) fun h => by cases h.2
      rw [hoverheard]
      exact h

/-- A report after another command that is complete. -/
theorem workingDirectory_after_title :
    (trackerAfter [[0x1b, 0x5d, 0x30, 0x3b, 0x61], [0x07, 0x1b],
      [0x5d, 0x37, 0x3b, 0x2f, 0x1b, 0x5c]]).workingDirectory = some "/" :=
  (@workingDirectory_iff _ [0x1b, 0x5d, 0x30, 0x3b, 0x61, 0x07] "/" .st (by decide +kernel)
    (by decide +kernel) (by decide +kernel)).mpr (.inl (by decide +kernel))

/-- A title that is left open takes the report for its text. -/
theorem open_title_hides_report : ¬∀ (chunks : List (List UInt8)) (earlier : List UInt8) (payload : String)
    (terminator : OscTerminator), chunks.flatten = earlier ++ osc7Report payload terminator →
      OscText (utf8Bytes payload) → (utf8Bytes payload).length + 2 ≤ oscBufferLimit →
        (trackerAfter chunks).workingDirectory = some payload := by
  intro h
  have hreport := h [[0x1b, 0x5d, 0x30, 0x3b, 0x61], osc7Report "/" .bel] [0x1b, 0x5d, 0x30, 0x3b, 0x61]
    "/" .bel (by rw [List.flatten_cons, List.flatten_cons, List.flatten_nil, List.append_nil])
    (by decide +kernel) (by decide +kernel)
  have hmissed : (trackerAfter [[0x1b, 0x5d, 0x30, 0x3b, 0x61], osc7Report "/" .bel]).workingDirectory =
      none := by decide +kernel
  rw [hmissed] at hreport
  cases hreport

end Nmux.Ghostty
