import Nmux.Core.InterimText

/-! What the interim engine makes of bytes as text, cut into chunks. Every chunk is decoded on its own: a
character that a cut takes apart becomes replacement characters, and a newline of two bytes becomes two.
Nothing else does: the text of the chunks is the text of the whole exactly if no chunk ends where the next
byte goes on, and otherwise it is longer. -/
namespace Nmux

/-- The replacement character. -/
def replacementChar : Char := '\uFFFD'

/-- A character that a line keeps, or that ends one. -/
def Visible (ch : Char) : Bool := ch = '\n' || ch = '\t' || !isControl ch

/-! ### Decoding byte by byte -/

/-- One byte of the lossy decoding: what waits after it, and the characters it completes. -/
def utf8Feed (pending : Option Utf8Pending) (byte : UInt8) : Option Utf8Pending × List Char :=
  match pending with
  | some wait =>
    if wait.low ≤ byte && byte ≤ wait.high then
      let value := wait.value * 64 + (byte.toNat - 0x80)
      if wait.following = 0 then (none, [Char.ofNat value])
      else (some ⟨0x80, 0xbf, wait.following - 1, value⟩, [])
    else
      match utf8Start byte with
      | .inl ch => (none, [replacementChar, ch])
      | .inr (some wait) => (some wait, [replacementChar])
      | .inr none => (none, [replacementChar, replacementChar])
  | none =>
    match utf8Start byte with
    | .inl ch => (none, [ch])
    | .inr (some wait) => (some wait, [])
    | .inr none => (none, [replacementChar])

theorem fromUtf8LossyFrom_cons (pending : Option Utf8Pending) (byte : UInt8) (rest : List UInt8) :
    fromUtf8LossyFrom pending (byte :: rest) =
      (utf8Feed pending byte).2 ++ fromUtf8LossyFrom (utf8Feed pending byte).1 rest := by
  conv_lhs => unfold fromUtf8LossyFrom
  unfold utf8Feed
  rcases hstart : utf8Start byte with ch | _ | wait
  all_goals
    cases pending with
    | none => rfl
    | some wait =>
      dsimp only
      split
      · split <;> rfl
      · rfl

/-- Newlines behind a carriage return, or not: what was the last, and the text. -/
def newlineRun : Bool → List Char → Bool × List Char
  | afterCr, [] => (afterCr, [])
  | afterCr, ch :: rest =>
    if ch = '\r' then ((newlineRun true rest).1, '\n' :: (newlineRun true rest).2)
    else if ch = '\n' ∧ afterCr = true then newlineRun false rest
    else ((newlineRun false rest).1, ch :: (newlineRun false rest).2)

theorem newlineRun_append (afterCr : Bool) (first second : List Char) :
    newlineRun afterCr (first ++ second) =
      ((newlineRun (newlineRun afterCr first).1 second).1,
        (newlineRun afterCr first).2 ++ (newlineRun (newlineRun afterCr first).1 second).2) := by
  induction first generalizing afterCr with
  | nil => rfl
  | cons ch rest ih =>
    rw [List.cons_append, newlineRun, newlineRun]
    split
    · rw [ih]
      rfl
    · split
      · exact ih false
      · rw [ih]
        rfl

theorem newlineRun_true {text : List Char} (h : ∀ rest, text = '\n' :: rest → False) :
    (newlineRun true text).2 = (newlineRun false text).2 := by
  cases text with
  | nil => rfl
  | cons ch rest =>
    have hne : ch ≠ '\n' := fun heq => h rest (by rw [heq])
    have hnot : ∀ afterCr : Bool, ¬ (ch = '\n' ∧ afterCr = true) := fun afterCr hboth => hne hboth.1
    rw [newlineRun, newlineRun, if_neg (hnot true), if_neg (hnot false)]

theorem normalizeNewlines_eq (text : List Char) : normalizeNewlines text = (newlineRun false text).2 := by
  induction text using normalizeNewlines.induct with
  | case1 rest ih =>
    have hskip : newlineRun true ('\n' :: rest) = newlineRun false rest := by
      rw [newlineRun, if_neg (by decide), if_pos ⟨rfl, rfl⟩]
    rw [normalizeNewlines, newlineRun, if_pos rfl, hskip, ih]
  | case2 rest hnone ih =>
    rw [normalizeNewlines.eq_2 _ hnone, newlineRun, if_pos rfl, newlineRun_true hnone, ih]
  | case3 ch rest hpair hcr ih =>
    have hnot : ch ≠ '\r' := hcr
    rw [normalizeNewlines.eq_3 _ _ hpair hcr, newlineRun, if_neg hnot, if_neg (by simp), ih]
  | case4 => rfl

/-! ### The decoder of a chunk -/

/-- What a chunk's decoding goes on from: the bytes of a character so far, and whether the last character
was a carriage return. -/
structure Decoder where
  pending : Option Utf8Pending
  afterCr : Bool
deriving DecidableEq, Repr

namespace Decoder

/-- A chunk is decoded from here. -/
def start : Decoder := ⟨none, false⟩

def next (decoder : Decoder) (byte : UInt8) : Decoder where
  pending := (utf8Feed decoder.pending byte).1
  afterCr := (newlineRun decoder.afterCr (utf8Feed decoder.pending byte).2).1

/-- The characters a byte completes. -/
def emits (decoder : Decoder) (byte : UInt8) : List Char :=
  (newlineRun decoder.afterCr (utf8Feed decoder.pending byte).2).2

/-- What the end of the chunk adds. -/
def flush (decoder : Decoder) : List Char := if decoder.pending.isSome then [replacementChar] else []

/-- The text of the bytes to the end of the chunk. -/
def text (decoder : Decoder) (bytes : List UInt8) : List Char :=
  (newlineRun decoder.afterCr (fromUtf8LossyFrom decoder.pending bytes)).2

/-- The decoder after some bytes. -/
def run (decoder : Decoder) (bytes : List UInt8) : Decoder := bytes.foldl next decoder

/-- The byte goes on with what the decoder is in: a character that misses bytes, or a newline of two. -/
def Continues (decoder : Decoder) (byte : UInt8) : Prop :=
  match decoder.pending with
  | some wait => wait.low ≤ byte ∧ byte ≤ wait.high
  | none => decoder.afterCr = true ∧ byte = 0x0a

instance (decoder : Decoder) (byte : UInt8) : Decidable (decoder.Continues byte) :=
  match h : decoder.pending with
  | some wait => decidable_of_iff (wait.low ≤ byte ∧ byte ≤ wait.high) (by rw [Continues, h])
  | none => decidable_of_iff (decoder.afterCr = true ∧ byte = 0x0a) (by rw [Continues, h])

theorem text_nil (decoder : Decoder) : decoder.text [] = decoder.flush := by
  unfold text flush
  cases decoder.pending with
  | none => rfl
  | some wait =>
    show (newlineRun decoder.afterCr [replacementChar]).2 = [replacementChar]
    rw [newlineRun, if_neg (by decide), if_neg (by simp [replacementChar])]
    rfl

theorem text_cons (decoder : Decoder) (byte : UInt8) (rest : List UInt8) :
    decoder.text (byte :: rest) = decoder.emits byte ++ (decoder.next byte).text rest := by
  unfold text
  rw [fromUtf8LossyFrom_cons, newlineRun_append]
  rfl

/-- The text of a chunk in two parts: what the first completes, and the rest from there. -/
theorem exists_text_append (decoder : Decoder) (first : List UInt8) : ∃ completed, ∀ second,
    decoder.text (first ++ second) = completed ++ (decoder.run first).text second := by
  induction first generalizing decoder with
  | nil => exact ⟨[], fun second => rfl⟩
  | cons byte rest ih =>
    obtain ⟨completed, hrest⟩ := ih (decoder.next byte)
    refine ⟨decoder.emits byte ++ completed, fun second => ?_⟩
    rw [List.cons_append, text_cons, hrest, List.append_assoc]
    rfl

/-! ### Characters that miss bytes -/

/-- What is known of a character that misses bytes: they are continuation bytes, and it will not be ASCII. -/
structure Sound (wait : Utf8Pending) : Prop where
  low : 0x80 ≤ wait.low
  high : wait.high ≤ 0xbf
  wide : 0x80 ≤ (wait.value * 64 + (wait.low.toNat - 0x80)) * 64 ^ wait.following

instance (wait : Utf8Pending) : Decidable (Sound wait) :=
  decidable_of_iff (0x80 ≤ wait.low ∧ wait.high ≤ 0xbf ∧
    0x80 ≤ (wait.value * 64 + (wait.low.toNat - 0x80)) * 64 ^ wait.following)
    ⟨fun ⟨hlow, hhigh, hwide⟩ => ⟨hlow, hhigh, hwide⟩, fun h => ⟨h.low, h.high, h.wide⟩⟩

/-- A fact about bytes is a fact about the numbers below 256. -/
theorem forall_byte {P : UInt8 → Prop} (h : ∀ n : Fin 256, P (UInt8.ofNat n.val)) (byte : UInt8) : P byte := by
  have hbyte := h ⟨byte.toNat, byte.toNat_lt⟩
  rwa [UInt8.ofNat_toNat] at hbyte

theorem utf8Start_sound {byte : UInt8} {wait : Utf8Pending} (h : utf8Start byte = .inr (some wait)) :
    Sound wait := by
  have hall : ∀ byte : UInt8, ∀ wait ∈ (utf8Start byte).getRight?.join, Sound wait :=
    forall_byte (by decide +kernel)
  exact hall byte wait (by rw [h]; rfl)

/-- A continuation byte starts nothing. -/
theorem utf8Start_continuation : ∀ byte : UInt8, 0x80 ≤ byte ∧ byte ≤ 0xbf → utf8Start byte = .inr none :=
  forall_byte (by decide +kernel)

theorem utf8Start_newline : ∀ byte : UInt8, utf8Start byte = .inl '\n' → byte = 0x0a :=
  forall_byte (by decide +kernel)

/-- A character that is not ASCII is no newline of either kind. -/
theorem ofNat_ne_newline {value : Nat} (h : 0x80 ≤ value) :
    Char.ofNat value ≠ '\n' ∧ Char.ofNat value ≠ '\r' := by
  by_cases hvalid : value.isValidChar
  · have hvalue : (Char.ofNat value).toNat = value := by
      rw [Char.ofNat, dif_pos hvalid]
      rfl
    constructor
    · intro heq
      have hnat : (Char.ofNat value).toNat = 10 := congrArg Char.toNat heq
      omega
    · intro heq
      have hnat : (Char.ofNat value).toNat = 13 := congrArg Char.toNat heq
      omega
  · rw [Char.ofNat, dif_neg hvalid]
    decide

theorem Sound.wide_value {wait : Utf8Pending} (h : Sound wait) {byte : UInt8} (hlow : wait.low ≤ byte) :
    0x80 ≤ (wait.value * 64 + (byte.toNat - 0x80)) * 64 ^ wait.following := by
  have hle : wait.low.toNat ≤ byte.toNat := UInt8.le_iff_toNat_le.mp hlow
  exact h.wide.trans (Nat.mul_le_mul_right _ (by omega))

/-- A byte that goes on leaves a wait of which the same is known. -/
theorem Sound.next {wait : Utf8Pending} (h : Sound wait) {byte : UInt8} (hlow : wait.low ≤ byte)
    (hmore : wait.following ≠ 0) :
    Sound ⟨0x80, 0xbf, wait.following - 1, wait.value * 64 + (byte.toNat - 0x80)⟩ where
  low := UInt8.le_refl _
  high := UInt8.le_refl _
  wide := by
    have hwide := h.wide_value hlow
    obtain ⟨following, hfollowing⟩ := Nat.exists_eq_succ_of_ne_zero hmore
    have hzero : (0x80 : UInt8).toNat - 0x80 = 0 := rfl
    rw [hfollowing, Nat.pow_succ] at hwide
    simp only [hfollowing, hzero, Nat.add_zero, Nat.succ_eq_add_one, Nat.add_sub_cancel]
    rwa [Nat.mul_assoc, Nat.mul_comm 64]

/-! ### What a byte goes on with -/

section
variable {wait : Utf8Pending} {byte : UInt8}

theorem utf8Feed_more (h : wait.low ≤ byte ∧ byte ≤ wait.high) : utf8Feed (some wait) byte =
    if wait.following = 0 then (none, [Char.ofNat (wait.value * 64 + (byte.toNat - 0x80))])
    else (some ⟨0x80, 0xbf, wait.following - 1, wait.value * 64 + (byte.toNat - 0x80)⟩, []) := by
  have hrange : (wait.low ≤ byte && byte ≤ wait.high) = true := by simp [h.1, h.2]
  unfold utf8Feed
  dsimp only
  rw [if_pos hrange]

/-- A byte that does not go on ends the character, and starts what it starts anyway. -/
theorem utf8Feed_other (h : ¬ (wait.low ≤ byte ∧ byte ≤ wait.high)) : utf8Feed (some wait) byte =
    ((utf8Feed none byte).1, replacementChar :: (utf8Feed none byte).2) := by
  have hrange : ¬ (wait.low ≤ byte && byte ≤ wait.high) = true := by simpa using h
  unfold utf8Feed
  dsimp only
  rw [if_neg hrange]
  split <;> rfl

theorem newlineRun_replacement (afterCr : Bool) (text : List Char) :
    newlineRun afterCr (replacementChar :: text) =
      ((newlineRun false text).1, replacementChar :: (newlineRun false text).2) := by
  rw [newlineRun, if_neg (by decide), if_neg (by simp [replacementChar])]

theorem newlineRun_of_ne {ch : Char} (h : ch ≠ '\n') (afterCr : Bool) :
    newlineRun afterCr [ch] = newlineRun false [ch] := by
  simp only [newlineRun, h, false_and, if_false]

/-- A character that misses bytes is no newline, so the carriage return before it does not matter. -/
theorem text_pending (hsound : Sound wait) (afterCr : Bool) (bytes : List UInt8) :
    (⟨some wait, afterCr⟩ : Decoder).text bytes = (⟨some wait, false⟩ : Decoder).text bytes := by
  induction bytes generalizing wait with
  | nil => rw [text_nil, text_nil]; rfl
  | cons byte rest ih =>
    by_cases hrange : wait.low ≤ byte ∧ byte ≤ wait.high
    · by_cases hlast : wait.following = 0
      · have hwide : 0x80 ≤ wait.value * 64 + (byte.toNat - 0x80) := by
          have hwide := hsound.wide_value hrange.1
          rwa [hlast, Nat.pow_zero, Nat.mul_one] at hwide
        rw [text_cons, text_cons]
        unfold emits next
        dsimp only
        rw [utf8Feed_more hrange, if_pos hlast, newlineRun_of_ne (ofNat_ne_newline hwide).1]
      · rw [text_cons, text_cons]
        unfold emits next
        dsimp only
        rw [utf8Feed_more hrange, if_neg hlast]
        exact congrArg _ (ih (hsound.next hrange.1 hlast))
    · rw [text_cons, text_cons]
      unfold emits next
      dsimp only
      rw [utf8Feed_other hrange, newlineRun_replacement, newlineRun_replacement]

end

/-- What is known of what a decoder waits for. -/
def Known (decoder : Decoder) : Prop := ∀ wait ∈ decoder.pending, Sound wait

theorem start_known : start.Known := nofun

theorem next_known {decoder : Decoder} (h : decoder.Known) (byte : UInt8) : (decoder.next byte).Known := by
  have hstart : ∀ wait ∈ (utf8Feed none byte).1, Sound wait := by
    intro wait hwait
    unfold utf8Feed at hwait
    dsimp only at hwait
    split at hwait
    · cases hwait
    case h_2 hstart => cases hwait; exact utf8Start_sound hstart
    · cases hwait
  obtain ⟨pending, afterCr⟩ := decoder
  cases pending with
  | none => exact hstart
  | some wait =>
    show ∀ later ∈ (utf8Feed (some wait) byte).1, Sound later
    by_cases hrange : wait.low ≤ byte ∧ byte ≤ wait.high
    · rw [utf8Feed_more hrange]
      split
      · nofun
      case isFalse hmore =>
        intro later hlater
        cases hlater
        exact (h wait rfl).next hrange.1 hmore
    · rw [utf8Feed_other hrange]
      exact hstart

theorem run_known {decoder : Decoder} (h : decoder.Known) (bytes : List UInt8) : (decoder.run bytes).Known := by
  induction bytes generalizing decoder with
  | nil => exact h
  | cons byte rest ih => exact ih (next_known h byte)

/-- **A byte that does not go on** with what came before is decoded as at the start of a chunk. -/
theorem text_of_not_continues {decoder : Decoder} {byte : UInt8} (hknown : decoder.Known)
    (h : ¬ decoder.Continues byte) (rest : List UInt8) :
    decoder.text (byte :: rest) = decoder.flush ++ start.text (byte :: rest) := by
  obtain ⟨pending, afterCr⟩ := decoder
  rw [text_cons, text_cons]
  cases pending with
  | some wait =>
    unfold emits next flush start
    dsimp only
    rw [utf8Feed_other h, newlineRun_replacement]
    rfl
  | none =>
    cases afterCr with
    | false => rfl
    | true =>
      have hother : byte ≠ 0x0a := fun heq => h ⟨rfl, heq⟩
      unfold emits next flush start
      dsimp only
      rcases hstart : utf8Start byte with ch | _ | wait
      · have hfeed : utf8Feed none byte = (none, [ch]) := by
          unfold utf8Feed
          dsimp only
          rw [hstart]
        have hne : ch ≠ '\n' := fun heq => hother (utf8Start_newline byte (heq ▸ hstart))
        rw [hfeed, newlineRun_of_ne hne]
        rfl
      · have hfeed : utf8Feed none byte = (none, [replacementChar]) := by
          unfold utf8Feed
          dsimp only
          rw [hstart]
        rw [hfeed, newlineRun_replacement]
        rfl
      · have hfeed : utf8Feed none byte = (some wait, []) := by
          unfold utf8Feed
          dsimp only
          rw [hstart]
        rw [hfeed]
        exact text_pending (utf8Start_sound hstart) true rest

end Decoder

/-! ### Visible text -/

/-- What the lines of a pane get of a chunk. -/
def visibleText (bytes : List UInt8) : List Char :=
  (normalizeNewlines (fromUtf8Lossy bytes)).filter Visible

/-- What they get of chunks, one after the other. -/
def cutText (chunks : List (List UInt8)) : List Char := chunks.flatMap visibleText

/-- No chunk ends inside a character or inside a newline of two bytes. -/
def CleanCuts : List (List UInt8) → Prop
  | [] => True
  | chunk :: rest =>
    (∀ byte ∈ rest.flatten.head?, ¬ (Decoder.start.run chunk).Continues byte) ∧ CleanCuts rest

instance CleanCuts.decidable : (chunks : List (List UInt8)) → Decidable (CleanCuts chunks)
  | [] => isTrue trivial
  | _ :: rest =>
    have := CleanCuts.decidable rest
    inferInstanceAs (Decidable (_ ∧ _))

namespace Decoder

/-- The visible text from a decoder on. -/
def visible (decoder : Decoder) (bytes : List UInt8) : List Char := (decoder.text bytes).filter Visible

theorem visibleText_eq (bytes : List UInt8) : visibleText bytes = start.visible bytes := by
  unfold visibleText visible text
  rw [normalizeNewlines_eq]
  rfl

theorem flush_visible (decoder : Decoder) : decoder.flush.filter Visible = decoder.flush := by
  unfold flush
  split
  · rfl
  · rfl

theorem visible_cons (decoder : Decoder) (byte : UInt8) (rest : List UInt8) :
    decoder.visible (byte :: rest) =
      (decoder.emits byte).filter Visible ++ (decoder.next byte).visible rest := by
  unfold visible
  rw [text_cons, List.filter_append]

theorem visible_of_not_continues {decoder : Decoder} {byte : UInt8} (hknown : decoder.Known)
    (h : ¬ decoder.Continues byte) (rest : List UInt8) :
    decoder.visible (byte :: rest) = decoder.flush ++ start.visible (byte :: rest) := by
  unfold visible
  rw [text_of_not_continues hknown h, List.filter_append, flush_visible]

/-- **A chunk that starts in between** has at least the text it has where it goes on, and more if its
first byte goes on with what came before. -/
theorem visible_length_le {decoder : Decoder} (hknown : decoder.Known) (bytes : List UInt8) :
    (decoder.visible bytes).length ≤ decoder.flush.length + (start.visible bytes).length ∧
      ∀ byte ∈ bytes.head?, decoder.Continues byte →
        (decoder.visible bytes).length < decoder.flush.length + (start.visible bytes).length := by
  induction bytes generalizing decoder with
  | nil =>
    refine ⟨?_, nofun⟩
    unfold visible
    rw [text_nil, flush_visible]
    exact Nat.le_add_right _ _
  | cons byte rest ih =>
    by_cases hcontinues : decoder.Continues byte
    · have hless : (decoder.visible (byte :: rest)).length <
          decoder.flush.length + (start.visible (byte :: rest)).length := by
        obtain ⟨pending, afterCr⟩ := decoder
        cases pending with
        | none =>
          obtain ⟨rfl, rfl⟩ : afterCr = true ∧ byte = 0x0a := hcontinues
          have hhere : (⟨none, true⟩ : Decoder).visible (0x0a :: rest) = start.visible rest := by
            rw [visible_cons]
            rfl
          have hstart : start.visible (0x0a :: rest) = '\n' :: start.visible rest := by
            rw [visible_cons]
            rfl
          rw [hhere, hstart, List.length_cons]
          omega
        | some wait =>
          have hsound := hknown wait rfl
          have hrange : wait.low ≤ byte ∧ byte ≤ wait.high := hcontinues
          have hbyte := utf8Start_continuation byte
            ⟨UInt8.le_trans hsound.low hrange.1, UInt8.le_trans hrange.2 hsound.high⟩
          have hstart : start.visible (byte :: rest) = replacementChar :: start.visible rest := by
            have hfeed : utf8Feed none byte = (none, [replacementChar]) := by
              unfold utf8Feed
              dsimp only
              rw [hbyte]
            rw [visible_cons]
            unfold emits next start
            dsimp only
            rw [hfeed]
            rfl
          have hflush : (⟨some wait, afterCr⟩ : Decoder).flush.length = 1 := rfl
          rw [hstart, hflush, List.length_cons]
          by_cases hlast : wait.following = 0
          · have hhere : ((⟨some wait, afterCr⟩ : Decoder).visible (byte :: rest)).length ≤
                1 + (start.visible rest).length := by
              have hwide : 0x80 ≤ wait.value * 64 + (byte.toNat - 0x80) := by
                have hwide := hsound.wide_value hrange.1
                rwa [hlast, Nat.pow_zero, Nat.mul_one] at hwide
              obtain ⟨hnewline, hcr⟩ := ofNat_ne_newline hwide
              have hrun : newlineRun afterCr [Char.ofNat (wait.value * 64 + (byte.toNat - 0x80))] =
                  (false, [Char.ofNat (wait.value * 64 + (byte.toNat - 0x80))]) := by
                simp only [newlineRun, hnewline, hcr, false_and, if_false]
              rw [visible_cons]
              unfold emits next
              dsimp only
              rw [utf8Feed_more hrange, if_pos hlast, hrun, List.length_append]
              exact Nat.add_le_add_right (List.length_filter_le _ _) _
            omega
          · have hfeed : utf8Feed (some wait) byte =
                (some ⟨0x80, 0xbf, wait.following - 1, wait.value * 64 + (byte.toNat - 0x80)⟩, []) := by
              rw [utf8Feed_more hrange, if_neg hlast]
            have hhere : (⟨some wait, afterCr⟩ : Decoder).visible (byte :: rest) =
                ((⟨some wait, afterCr⟩ : Decoder).next byte).visible rest := by
              rw [visible_cons]
              unfold emits
              dsimp only
              rw [hfeed]
              rfl
            have hnext : ((⟨some wait, afterCr⟩ : Decoder).next byte).flush.length = 1 := by
              unfold next flush
              dsimp only
              rw [hfeed]
              rfl
            have hrest := (ih (next_known hknown byte)).1
            rw [hhere]
            omega
      exact ⟨hless.le, fun _ _ _ => hless⟩
    · have hsame := congrArg List.length (visible_of_not_continues hknown hcontinues rest)
      rw [List.length_append] at hsame
      refine ⟨hsame.le, fun other hother hcontinues' => absurd ?_ hcontinues⟩
      cases hother
      exact hcontinues'

end Decoder

open Decoder

/-- The text of a chunk, and of the chunk with more behind it. -/
theorem exists_visible_append (chunk : List UInt8) : ∃ completed,
    visibleText chunk = completed ++ (start.run chunk).flush ∧
      ∀ rest, visibleText (chunk ++ rest) = completed ++ (start.run chunk).visible rest := by
  obtain ⟨completed, htext⟩ := start.exists_text_append chunk
  refine ⟨completed.filter Visible, ?_, fun rest => ?_⟩
  · have hchunk := htext []
    rw [List.append_nil, text_nil] at hchunk
    rw [visibleText_eq, visible, hchunk, List.filter_append, flush_visible]
  · rw [visibleText_eq, visible, htext, List.filter_append]
    rfl

/-- Cuts make the text longer or leave it; they leave it where they are clean, and nowhere else. -/
theorem cutText_length (chunks : List (List UInt8)) :
    (visibleText chunks.flatten).length ≤ (cutText chunks).length ∧
      ((cutText chunks).length = (visibleText chunks.flatten).length → CleanCuts chunks) ∧
      (CleanCuts chunks → cutText chunks = visibleText chunks.flatten) := by
  induction chunks with
  | nil => exact ⟨Nat.zero_le _, fun _ => trivial, fun _ => rfl⟩
  | cons chunk rest ih =>
    obtain ⟨hle, hclean, heq⟩ := ih
    obtain ⟨completed, hchunk, hwhole⟩ := exists_visible_append chunk
    have hcut : cutText (chunk :: rest) = visibleText chunk ++ cutText rest := rfl
    have hknown := run_known start_known chunk
    obtain ⟨hlong, hlonger⟩ := visible_length_le hknown rest.flatten
    rw [hcut, List.flatten_cons, hwhole, hchunk, List.append_assoc]
    simp only [List.length_append]
    rw [visibleText_eq] at hle hclean heq
    refine ⟨by omega, fun hlength => ⟨fun byte hbyte hcontinues => ?_, hclean (by omega)⟩, fun hclean => ?_⟩
    · have hless := hlonger byte hbyte hcontinues
      omega
    · rw [heq hclean.2]
      cases hflatten : rest.flatten with
      | nil =>
        rw [visible, visible, text_nil, text_nil, flush_visible, flush_visible]
        show completed ++ ((start.run chunk).flush ++ []) = _
        rw [List.append_nil]
      | cons byte others =>
        have hother : ¬ (start.run chunk).Continues byte :=
          hclean.1 byte (by rw [hflatten]; exact rfl)
        rw [visible_of_not_continues hknown hother]

end Nmux
