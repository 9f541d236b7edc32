import Nmux.Core.Events
import Nmux.Lib.Code
import Nmux.Lib.Decimal

/-! The container a session trace is kept in. Each record is two segments of text: the accepted event, of
which there is a line for each part of its metadata and one for its name, and a line for each effect. The
texts are escaped, so the container tells all that is written to it; the arguments of the events are not. -/
namespace Nmux

open Protocol (PatchKind)
open Lib (Delimits NoneFirst decimalBytes labelled labelled_inj token_inj)

inductive TraceSegmentKind where
  | acceptedEvent | outputTrace | snapshot | metadata
deriving DecidableEq, Repr

def TraceSegmentKind.toByte : TraceSegmentKind → UInt8
  | .acceptedEvent => 1
  | .outputTrace => 2
  | .snapshot => 3
  | .metadata => 4

/-! ### Text -/

def laneName : SessionEventLane → String
  | .control => "control"
  | .client => "client"
  | .pane => "pane"
  | .timer => "timer"
  | .lifecycle => "lifecycle"

def eventName : SessionEvent → String
  | .addTab .. => "add_tab"
  | .switchTab .. => "switch_tab"
  | .closeTab .. => "close_tab"
  | .focusPane .. => "focus_pane"
  | .splitPane .. => "split_pane"
  | .setPaneResizePolicy .. => "set_pane_resize_policy"
  | .paneOutput .. => "pane_output"
  | .commitPaneResize .. => "commit_pane_resize"
  | .requestSessionShutdown .. => "request_session_shutdown"
  | .forwardPaneInput .. => "forward_pane_input"

def patchKindName (kind : PatchKind) : String :=
  if kind = .replaceRows then "replace_rows"
  else if kind = .fullRefreshRequired then "full_refresh_required"
  else if kind = .colorOnly then "color_only"
  else if kind = .modeOnly then "mode_only"
  else if kind = .cursorOnly then "cursor_only"
  else "unknown"

/-- What `escape_field` writes for a character. -/
def escapeFieldChar (ch : Char) : List Char :=
  if ch = '\\' then ['\\', '\\']
  else if ch = '\n' then ['\\', 'n']
  else if ch = '\r' then ['\\', 'r']
  else if ch = '\t' then ['\\', 't']
  else if ch = ' ' then ['\\', 's']
  else [ch]

def escapeField (value : String) : String := String.ofList (value.toList.flatMap escapeFieldChar)

def encodeAcceptedEvent (accepted : AcceptedSessionEvent) : String :=
  "event_index=" ++ toString accepted.metadata.eventIndex ++
    "\nsession_mono_ms=" ++ toString accepted.metadata.sessionMonoMs ++
    "\nsource_id=" ++ escapeField accepted.metadata.sourceId ++
    "\nlane=" ++ laneName accepted.metadata.lane ++
    "\nevent=" ++ eventName accepted.event ++ "\n"

/-- The line `encode_effects` writes for an effect. -/
def encodeEffect : SessionEffect → String
  | .workspaceChanged eventIndex version =>
    "effect=" ++ "workspace_changed" ++ " event_index=" ++ toString eventIndex ++
      " version=" ++ toString version ++ "\n"
  | .paneSurfaceChanged eventIndex paneId surfaceVersion scrollbackVersion patchKind =>
    "effect=" ++ "pane_surface_changed" ++ " event_index=" ++ toString eventIndex ++
      " pane_id=" ++ escapeField paneId ++ " surface_version=" ++ toString surfaceVersion ++
      " scrollback_version=" ++ toString scrollbackVersion ++ " patch_kind=" ++ patchKindName patchKind ++ "\n"
  | .paneResized eventIndex paneId cols rows =>
    "effect=" ++ "pane_resized" ++ " event_index=" ++ toString eventIndex ++
      " pane_id=" ++ escapeField paneId ++ " cols=" ++ toString cols ++ " rows=" ++ toString rows ++ "\n"

def encodeEffects (effects : List SessionEffect) : String :=
  effects.foldl (fun encoded effect => encoded ++ encodeEffect effect) ""

/-! ### The container -/

/-- `NMUXTRACE` and a zero. -/
def containerMagic : List UInt8 := [0x4e, 0x4d, 0x55, 0x58, 0x54, 0x52, 0x41, 0x43, 0x45, 0]

/-- `NMS1`. -/
def segmentMagic : List UInt8 := [0x4e, 0x4d, 0x53, 0x31]

def containerVersion : ℕ := 1

/-- `to_le_bytes` of an integer of so many bytes. -/
def toLeBytes (width value : ℕ) : List UInt8 :=
  (List.range width).map fun place => UInt8.ofNat (value >>> (8 * place))

/-- A writer with what it has written, to something that takes all of it. -/
structure TraceContainerWriter where
  writer : List UInt8
deriving DecidableEq, Repr

namespace TraceContainerWriter

def new : TraceContainerWriter := ⟨containerMagic ++ toLeBytes 4 containerVersion⟩

def writeSegment (writer : TraceContainerWriter) (kind : TraceSegmentKind) (payload : List UInt8) :
    TraceContainerWriter :=
  ⟨writer.writer ++ segmentMagic ++ [kind.toByte] ++ toLeBytes 8 payload.length ++ payload⟩

def writeRecord (writer : TraceContainerWriter) (record : SessionTraceRecord) : TraceContainerWriter :=
  (writer.writeSegment .acceptedEvent (utf8Bytes (encodeAcceptedEvent record.accepted))).writeSegment
    .outputTrace (utf8Bytes (encodeEffects record.effects))

/-- The container of a sequence of records. -/
def container (records : List SessionTraceRecord) : List UInt8 :=
  (records.foldl writeRecord new).writer

end TraceContainerWriter

/-! ### Fields -/

/-- The bytes of a field: any but those that end one. -/
def FieldByte (byte : UInt8) : Prop := byte ≠ 0x20 ∧ byte ≠ 0x0a

instance (byte : UInt8) : Decidable (FieldByte byte) := inferInstanceAs (Decidable (_ ∧ _))

theorem fieldByte_decimal {value : ℕ} : ∀ byte ∈ decimalBytes value, FieldByte byte := by
  intro byte hbyte
  have hdigit := (Lib.isDigit_of_mem hbyte).1
  refine ⟨?_, ?_⟩ <;> rintro rfl <;> exact absurd hdigit (by decide)

theorem escapeFieldChar_mem {ch other : Char} (h : other ∈ escapeFieldChar ch) : other ≠ ' ' ∧ other ≠ '\n' := by
  unfold escapeFieldChar at h
  split_ifs at h <;> simp only [List.mem_cons, List.not_mem_nil, or_false, or_self] at h
  · subst h; decide
  · rcases h with rfl | rfl <;> decide
  · rcases h with rfl | rfl <;> decide
  · rcases h with rfl | rfl <;> decide
  · rcases h with rfl | rfl <;> decide
  · subst h
    exact ⟨by assumption, by assumption⟩

/-- The bytes of a text without spaces and line ends. -/
theorem fieldByte_text {text : String} (h : ∀ ch ∈ text.toList, ch ≠ ' ' ∧ ch ≠ '\n') :
    ∀ byte ∈ utf8Bytes text, FieldByte byte := by
  intro byte hbyte
  unfold utf8Bytes at hbyte
  rw [Lib.toUTF8_toList] at hbyte
  obtain ⟨ch, hch, hbyte⟩ := List.mem_flatMap.mp hbyte
  obtain ⟨hspace, hnewline⟩ := h ch hch
  refine ⟨?_, ?_⟩ <;> rintro rfl
  · refine hspace (Char.ext (UInt32.toNat_inj.mp ?_))
    exact (Lib.utf8EncodeChar_of_small hbyte (by decide)).1
  · refine hnewline (Char.ext (UInt32.toNat_inj.mp ?_))
    exact (Lib.utf8EncodeChar_of_small hbyte (by decide)).1

theorem fieldByte_escapeField {value : String} : ∀ byte ∈ utf8Bytes (escapeField value), FieldByte byte := by
  refine fieldByte_text fun other hother => ?_
  unfold escapeField at hother
  rw [String.toList_ofList] at hother
  obtain ⟨ch, -, hother⟩ := List.mem_flatMap.mp hother
  exact escapeFieldChar_mem hother

/-- The character at the front of an escaped text. -/
def unescapeFront : List Char → Option (Char × List Char)
  | [] => none
  | ch :: rest =>
    if ch = '\\' then
      match rest with
      | [] => none
      | code :: rest =>
        some (if code = 'n' then '\n' else if code = 'r' then '\r' else if code = 't' then '\t'
          else if code = 's' then ' ' else code, rest)
    else some (ch, rest)

theorem escapeFieldChar_delimits : Delimits (fun _ => True) escapeFieldChar Eq := by
  refine Delimits.of_read unescapeFront fun ch after _ => ?_
  unfold escapeFieldChar
  split_ifs with hbackslash hnewline hreturn htab hspace
  · rw [hbackslash]; rfl
  · rw [hnewline]; rfl
  · rw [hreturn]; rfl
  · rw [htab]; rfl
  · rw [hspace]; rfl
  · exact if_neg hbackslash

theorem escapeField_injective : Function.Injective escapeField := by
  intro value other h
  refine String.toList_injective (escapeFieldChar_delimits.flatMap_injective (fun ch => ?_)
    (String.ofList_injective h))
  unfold escapeFieldChar
  split_ifs <;> exact List.cons_ne_nil _ _

/-! ### Lines -/

/-- Two effects that are written alike: they are the same, up to kinds of patches without a name. -/
def SessionEffect.Alike (effect other : SessionEffect) : Prop :=
  effect = other ∨ ∃ eventIndex paneId surfaceVersion scrollbackVersion kind otherKind,
    effect = .paneSurfaceChanged eventIndex paneId surfaceVersion scrollbackVersion kind ∧
    other = .paneSurfaceChanged eventIndex paneId surfaceVersion scrollbackVersion otherKind ∧
    patchKindName kind = patchKindName otherKind

/-- Two records that are written alike: their events may differ in their arguments. -/
structure SessionTraceRecord.Alike (record other : SessionTraceRecord) : Prop where
  metadata : record.accepted.metadata = other.accepted.metadata
  event : eventName record.accepted.event = eventName other.accepted.event
  effects : List.Forall₂ SessionEffect.Alike record.effects other.effects

def eventLabels : List (List UInt8) :=
  ["event_index=", "\nsession_mono_ms=", "\nsource_id=", "\nlane=", "\nevent="].map utf8Bytes

def eventTokens (accepted : AcceptedSessionEvent) : List (List UInt8) :=
  [decimalBytes accepted.metadata.eventIndex.toNat, decimalBytes accepted.metadata.sessionMonoMs.toNat,
    utf8Bytes (escapeField accepted.metadata.sourceId), utf8Bytes (laneName accepted.metadata.lane),
    utf8Bytes (eventName accepted.event)]

def effectName : SessionEffect → String
  | .workspaceChanged .. => "workspace_changed"
  | .paneSurfaceChanged .. => "pane_surface_changed"
  | .paneResized .. => "pane_resized"

def effectLabels : SessionEffect → List (List UInt8)
  | .workspaceChanged .. => [" event_index=", " version="].map utf8Bytes
  | .paneSurfaceChanged .. =>
    [" event_index=", " pane_id=", " surface_version=", " scrollback_version=", " patch_kind="].map utf8Bytes
  | .paneResized .. => [" event_index=", " pane_id=", " cols=", " rows="].map utf8Bytes

def effectTokens : SessionEffect → List (List UInt8)
  | .workspaceChanged eventIndex version => [decimalBytes eventIndex.toNat, decimalBytes version.toNat]
  | .paneSurfaceChanged eventIndex paneId surfaceVersion scrollbackVersion patchKind =>
    [decimalBytes eventIndex.toNat, utf8Bytes (escapeField paneId), decimalBytes surfaceVersion.toNat,
      decimalBytes scrollbackVersion.toNat, utf8Bytes (patchKindName patchKind)]
  | .paneResized eventIndex paneId cols rows =>
    [decimalBytes eventIndex.toNat, utf8Bytes (escapeField paneId), decimalBytes cols.toNat,
      decimalBytes rows.toNat]

theorem encodeAcceptedEvent_bytes (accepted : AcceptedSessionEvent) :
    utf8Bytes (encodeAcceptedEvent accepted) =
      labelled eventLabels (eventTokens accepted) ++ utf8Bytes "\n" := by
  unfold encodeAcceptedEvent
  simp only [utf8Bytes_append, eventLabels, eventTokens, labelled, List.map_cons, List.map_nil, List.append_nil,
    List.append_assoc, utf8Bytes_toString64, -String.reduceAppend]

theorem encodeEffect_bytes (effect : SessionEffect) : utf8Bytes (encodeEffect effect) =
    utf8Bytes "effect=" ++ (utf8Bytes (effectName effect) ++
      (labelled (effectLabels effect) (effectTokens effect) ++ utf8Bytes "\n")) := by
  unfold encodeEffect effectName effectLabels effectTokens
  cases effect <;> dsimp only
  · simp only [utf8Bytes_append, labelled, List.map_cons, List.map_nil, List.append_nil, List.append_assoc,
      utf8Bytes_toString64, -String.reduceAppend]
  · simp only [utf8Bytes_append, labelled, List.map_cons, List.map_nil, List.append_nil, List.append_assoc,
      utf8Bytes_toString64, -String.reduceAppend]
  · simp only [utf8Bytes_append, labelled, List.map_cons, List.map_nil, List.append_nil, List.append_assoc,
      utf8Bytes_toString64, utf8Bytes_toString32, -String.reduceAppend]

/-! ### What fields are made of -/

theorem fieldByte_laneName (lane : SessionEventLane) : ∀ byte ∈ utf8Bytes (laneName lane), FieldByte byte := by
  refine fieldByte_text ?_
  cases lane <;> simp [laneName]

theorem fieldByte_eventName (event : SessionEvent) :
    ∀ byte ∈ utf8Bytes (eventName event), FieldByte byte := by
  refine fieldByte_text ?_
  cases event <;> simp [eventName]

theorem fieldByte_patchKindName (kind : PatchKind) :
    ∀ byte ∈ utf8Bytes (patchKindName kind), FieldByte byte := by
  refine fieldByte_text ?_
  unfold patchKindName
  split_ifs <;> simp

theorem fieldByte_effectName (effect : SessionEffect) :
    ∀ byte ∈ utf8Bytes (effectName effect), FieldByte byte := by
  refine fieldByte_text ?_
  cases effect <;> simp [effectName]

theorem fieldByte_eventTokens (accepted : AcceptedSessionEvent) :
    ∀ token ∈ eventTokens accepted, ∀ byte ∈ token, FieldByte byte := by
  intro token htoken
  simp only [eventTokens, List.mem_cons, List.not_mem_nil, or_false] at htoken
  rcases htoken with rfl | rfl | rfl | rfl | rfl
  · exact fieldByte_decimal
  · exact fieldByte_decimal
  · exact fieldByte_escapeField
  · exact fieldByte_laneName _
  · exact fieldByte_eventName _

theorem fieldByte_effectTokens (effect : SessionEffect) :
    ∀ token ∈ effectTokens effect, ∀ byte ∈ token, FieldByte byte := by
  intro token htoken
  cases effect <;> simp only [effectTokens, List.mem_cons, List.not_mem_nil, or_false] at htoken
  · rcases htoken with rfl | rfl <;> exact fieldByte_decimal
  · rcases htoken with rfl | rfl | rfl | rfl | rfl
    · exact fieldByte_decimal
    · exact fieldByte_escapeField
    · exact fieldByte_decimal
    · exact fieldByte_decimal
    · exact fieldByte_patchKindName _
  · rcases htoken with rfl | rfl | rfl | rfl
    · exact fieldByte_decimal
    · exact fieldByte_escapeField
    · exact fieldByte_decimal
    · exact fieldByte_decimal

/-- A text that starts with a space or a line end. -/
def Ends (text : List UInt8) : Prop := text.head? = some 0x20 ∨ text.head? = some 0x0a

theorem Ends.noneFirst {text : List UInt8} (h : Ends text) (rest : List UInt8) :
    text ≠ [] ∧ NoneFirst FieldByte (text ++ rest) := by
  have hne : text ≠ [] := by
    rintro rfl
    rcases h with h | h <;> cases h
  refine ⟨hne, NoneFirst.append (fun first hfirst hfield => ?_) hne rest⟩
  rw [Option.mem_def] at hfirst
  rcases h with h | h <;> rw [h] at hfirst <;> cases hfirst
  · exact hfield.1 rfl
  · exact hfield.2 rfl

theorem ends_text {text : String} (h : text.toList.head? = some ' ' ∨ text.toList.head? = some '\n') :
    Ends (utf8Bytes text) := by
  have hfront : ∀ ch, ch.toNat < 0x80 → text.toList.head? = some ch →
      (utf8Bytes text).head? = some (UInt8.ofNat ch.toNat) := by
    intro ch hsmall hhead
    obtain ⟨rest, hrest⟩ := List.head?_eq_some_iff.mp hhead
    unfold utf8Bytes
    rw [Lib.toUTF8_toList, hrest, List.flatMap_cons, Lib.utf8EncodeChar_small hsmall]
    rfl
  exact h.imp (hfront ' ' (by decide)) (hfront '\n' (by decide))

theorem ends_eventLabels : ∀ label ∈ eventLabels.tail, Ends label := by
  unfold eventLabels
  simp only [List.map_cons, List.tail_cons, List.map_nil, List.forall_mem_cons]
  exact ⟨ends_text (.inr rfl), ends_text (.inr rfl), ends_text (.inr rfl), ends_text (.inr rfl),
    List.forall_mem_nil _⟩

theorem ends_effectLabels (effect : SessionEffect) : ∀ label ∈ effectLabels effect, Ends label := by
  have htexts : ∀ texts : List String, (∀ text ∈ texts, text.toList.head? = some ' ') →
      ∀ label ∈ texts.map utf8Bytes, Ends label := by
    intro texts h label hlabel
    obtain ⟨text, htext, rfl⟩ := List.mem_map.mp hlabel
    exact ends_text (.inl (h text htext))
  cases effect <;> dsimp only [effectLabels] <;> exact htexts _ (by simp)

theorem ends_newline : Ends (utf8Bytes "\n") := ends_text (.inr rfl)

/-! ### The segments of a record -/

theorem laneName_injective : Function.Injective laneName := by
  intro lane other h
  cases lane <;> cases other <;> first | rfl | exact absurd h (by decide)

theorem eventTokens_length (accepted : AcceptedSessionEvent) :
    (eventTokens accepted).length = eventLabels.length := rfl

theorem encodeAcceptedEvent_delimits : Delimits (fun _ => True)
    (fun accepted => utf8Bytes (encodeAcceptedEvent accepted))
    fun accepted other => accepted.metadata = other.metadata ∧ eventName accepted.event = eventName other.event := by
  rintro ⟨⟨index, ms, source, lane⟩, event⟩ ⟨⟨index', ms', source', lane'⟩, event'⟩ after more - - h
  dsimp only at h ⊢
  rw [encodeAcceptedEvent_bytes, encodeAcceptedEvent_bytes, List.append_assoc, List.append_assoc] at h
  obtain ⟨htokens, hline⟩ := labelled_inj
    (fun label hlabel => by simpa using (ends_eventLabels label hlabel).noneFirst [])
    (eventTokens_length _) (eventTokens_length _) (fieldByte_eventTokens _) (fieldByte_eventTokens _)
    (ends_newline.noneFirst after).2
    (ends_newline.noneFirst more).2 h
  simp only [eventTokens, List.cons.injEq, and_true] at htokens
  obtain ⟨hindex, hms, hsource, hlane, hevent⟩ := htokens
  rw [UInt64.toNat_inj.mp (Lib.decimalBytes_injective hindex), UInt64.toNat_inj.mp (Lib.decimalBytes_injective hms),
    escapeField_injective (utf8Bytes_injective hsource), laneName_injective (utf8Bytes_injective hlane)]
  exact ⟨⟨rfl, utf8Bytes_injective hevent⟩, List.append_cancel_left hline⟩

theorem effectTokens_length (effect : SessionEffect) :
    (effectTokens effect).length = (effectLabels effect).length := by
  cases effect <;> rfl

theorem effectLabels_eq {effect other : SessionEffect} (h : effectName effect = effectName other) :
    effectLabels effect = effectLabels other := by
  cases effect <;> cases other <;> first | (simp [effectName] at h; done) | rfl

/-- Effects of one name with the same fields are written alike. -/
theorem alike_of_tokens {effect other : SessionEffect} (hname : effectName effect = effectName other)
    (htokens : effectTokens effect = effectTokens other) : effect.Alike other := by
  cases effect with
  | workspaceChanged index version =>
    cases other with
    | workspaceChanged index' version' =>
      simp only [effectTokens, List.cons.injEq, and_true] at htokens
      refine .inl ?_
      rw [UInt64.toNat_inj.mp (Lib.decimalBytes_injective htokens.1),
        UInt64.toNat_inj.mp (Lib.decimalBytes_injective htokens.2)]
    | paneSurfaceChanged | paneResized => simp [effectName] at hname
  | paneSurfaceChanged index paneId surfaceVersion scrollbackVersion kind =>
    cases other with
    | paneSurfaceChanged index' paneId' surfaceVersion' scrollbackVersion' kind' =>
      simp only [effectTokens, List.cons.injEq, and_true] at htokens
      obtain ⟨hindex, hpane, hsurface, hscrollback, hkind⟩ := htokens
      refine .inr ⟨index, paneId, surfaceVersion, scrollbackVersion, kind, kind', rfl, ?_,
        utf8Bytes_injective hkind⟩
      rw [UInt64.toNat_inj.mp (Lib.decimalBytes_injective hindex),
        escapeField_injective (utf8Bytes_injective hpane),
        UInt64.toNat_inj.mp (Lib.decimalBytes_injective hsurface),
        UInt64.toNat_inj.mp (Lib.decimalBytes_injective hscrollback)]
    | workspaceChanged | paneResized => simp [effectName] at hname
  | paneResized index paneId cols rows =>
    cases other with
    | paneResized index' paneId' cols' rows' =>
      simp only [effectTokens, List.cons.injEq, and_true] at htokens
      obtain ⟨hindex, hpane, hcols, hrows⟩ := htokens
      refine .inl ?_
      rw [UInt64.toNat_inj.mp (Lib.decimalBytes_injective hindex),
        escapeField_injective (utf8Bytes_injective hpane), UInt32.toNat_inj.mp (Lib.decimalBytes_injective hcols),
        UInt32.toNat_inj.mp (Lib.decimalBytes_injective hrows)]
    | workspaceChanged | paneSurfaceChanged => simp [effectName] at hname

theorem effectFields_noneFirst (effect : SessionEffect) (rest : List UInt8) :
    NoneFirst FieldByte (labelled (effectLabels effect) (effectTokens effect) ++ rest) := by
  have hfirst : ∃ label labels token tokens,
      effectLabels effect = label :: labels ∧ effectTokens effect = token :: tokens := by
    cases effect <;> exact ⟨_, _, _, _, rfl, rfl⟩
  obtain ⟨label, labels, token, tokens, hlabels, htokens⟩ := hfirst
  rw [hlabels, htokens, labelled, List.append_assoc]
  exact ((ends_effectLabels effect label (hlabels ▸ List.mem_cons_self)).noneFirst _).2

theorem encodeEffect_delimits :
    Delimits (fun _ => True) (fun effect => utf8Bytes (encodeEffect effect)) SessionEffect.Alike := by
  rintro effect other after more - - h
  dsimp only at h
  rw [encodeEffect_bytes, encodeEffect_bytes] at h
  simp only [List.append_assoc] at h
  obtain ⟨hname, hfields⟩ := token_inj (fieldByte_effectName effect) (fieldByte_effectName other)
    (effectFields_noneFirst effect _) (effectFields_noneFirst other _) (List.append_cancel_left h)
  have hnames := utf8Bytes_injective hname
  rw [effectLabels_eq hnames] at hfields
  obtain ⟨htokens, hline⟩ := labelled_inj
    (fun label hlabel => by
      simpa using (ends_effectLabels other label (List.mem_of_mem_tail hlabel)).noneFirst [])
    ((effectTokens_length effect).trans (congrArg _ (effectLabels_eq hnames))) (effectTokens_length other)
    (fieldByte_effectTokens effect) (fieldByte_effectTokens other) (ends_newline.noneFirst after).2
    (ends_newline.noneFirst more).2 hfields
  exact ⟨alike_of_tokens hnames htokens, List.append_cancel_left hline⟩

theorem encodeEffects_bytes (effects : List SessionEffect) :
    utf8Bytes (encodeEffects effects) = effects.flatMap fun effect => utf8Bytes (encodeEffect effect) := by
  have hfold : ∀ (effects : List SessionEffect) (encoded : String),
      utf8Bytes (effects.foldl (fun encoded effect => encoded ++ encodeEffect effect) encoded) =
        utf8Bytes encoded ++ effects.flatMap fun effect => utf8Bytes (encodeEffect effect) := by
    intro effects
    induction effects with
    | nil => exact fun encoded => (List.append_nil _).symm
    | cons effect effects ih =>
      intro encoded
      rw [List.foldl_cons, ih, utf8Bytes_append, List.append_assoc, List.flatMap_cons]
  rw [encodeEffects, hfold, show utf8Bytes "" = [] from Lib.toUTF8_toList "", List.nil_append]

/-- The lines of effects are followed by what starts no line of one. -/
theorem encodeEffects_delimits :
    Delimits (fun after => True ∧ ¬ after.head? = some 0x65) (fun effects => utf8Bytes (encodeEffects effects))
      (List.Forall₂ SessionEffect.Alike) := by
  simp only [encodeEffects_bytes]
  refine encodeEffect_delimits.list (fun text => text.head? = some 0x65) (fun effect rest => ?_)
    fun _ _ => trivial
  rw [encodeEffect_bytes, List.append_assoc, show utf8Bytes "effect=" =
    0x65 :: [0x66, 0x66, 0x65, 0x63, 0x74, 0x3d] from Lib.toUTF8_small (by simp), List.cons_append,
    List.head?_cons]

namespace TraceContainerWriter

/-- What stands before the payload of a segment. -/
def segmentFront (kind : TraceSegmentKind) (payload : List UInt8) : List UInt8 :=
  segmentMagic ++ [kind.toByte] ++ toLeBytes 8 payload.length

/-- The two segments of a record. -/
def recordBytes (record : SessionTraceRecord) : List UInt8 :=
  segmentFront .acceptedEvent (utf8Bytes (encodeAcceptedEvent record.accepted)) ++
    utf8Bytes (encodeAcceptedEvent record.accepted) ++
    (segmentFront .outputTrace (utf8Bytes (encodeEffects record.effects)) ++
      utf8Bytes (encodeEffects record.effects))

theorem writeRecord_writer (writer : TraceContainerWriter) (record : SessionTraceRecord) :
    (writer.writeRecord record).writer = writer.writer ++ recordBytes record := by
  unfold writeRecord writeSegment recordBytes segmentFront
  simp only [List.append_assoc]

theorem container_eq (records : List SessionTraceRecord) :
    container records = containerMagic ++ toLeBytes 4 containerVersion ++ records.flatMap recordBytes := by
  have hfold : ∀ (records : List SessionTraceRecord) (writer : TraceContainerWriter),
      (records.foldl writeRecord writer).writer = writer.writer ++ records.flatMap recordBytes := by
    intro records
    induction records with
    | nil => exact fun writer => (List.append_nil _).symm
    | cons record records ih =>
      intro writer
      rw [List.foldl_cons, ih, writeRecord_writer, List.append_assoc, List.flatMap_cons]
  exact hfold records new

theorem segmentFront_length (kind : TraceSegmentKind) (payload : List UInt8) :
    (segmentFront kind payload).length = 13 := by
  simp [segmentFront, segmentMagic, toLeBytes]

theorem recordBytes_head (record : SessionTraceRecord) (rest : List UInt8) :
    (recordBytes record ++ rest).head? = some 0x4e := by
  unfold recordBytes segmentFront segmentMagic
  simp only [List.cons_append, List.head?_cons]

theorem recordBytes_delimits :
    Delimits (fun after => True ∧ ¬ after.head? = some 0x65) recordBytes SessionTraceRecord.Alike := by
  have hevent := encodeAcceptedEvent_delimits.front
    (fun accepted => segmentFront .acceptedEvent (utf8Bytes (encodeAcceptedEvent accepted)))
    fun _ _ => (segmentFront_length _ _).trans (segmentFront_length _ _).symm
  have heffects := encodeEffects_delimits.front
    (fun effects => segmentFront .outputTrace (utf8Bytes (encodeEffects effects)))
    fun _ _ => (segmentFront_length _ _).trans (segmentFront_length _ _).symm
  intro record other after more hafter hmore h
  rw [recordBytes, recordBytes, List.append_assoc (_ ++ _) (_ ++ _) after,
    List.append_assoc (_ ++ _) (_ ++ _) more] at h
  obtain ⟨⟨hmetadata, hname⟩, hrest⟩ := hevent trivial trivial h
  obtain ⟨hall, hends⟩ := heffects hafter hmore hrest
  exact ⟨⟨hmetadata, hname, hall⟩, hends⟩

theorem encodeEffect_alike {effect other : SessionEffect} (h : effect.Alike other) :
    encodeEffect effect = encodeEffect other := by
  rcases h with rfl | ⟨index, paneId, surfaceVersion, scrollbackVersion, kind, otherKind, rfl, rfl, hkind⟩
  · rfl
  · unfold encodeEffect
    dsimp only
    rw [hkind]

theorem encodeEffects_alike {effects others : List SessionEffect}
    (h : List.Forall₂ SessionEffect.Alike effects others) :
    utf8Bytes (encodeEffects effects) = utf8Bytes (encodeEffects others) := by
  rw [encodeEffects_bytes, encodeEffects_bytes]
  induction h with
  | nil => rfl
  | cons hfirst _ ih => rw [List.flatMap_cons, List.flatMap_cons, encodeEffect_alike hfirst, ih]

theorem recordBytes_alike {record other : SessionTraceRecord} (h : record.Alike other) :
    recordBytes record = recordBytes other := by
  have hevent : encodeAcceptedEvent record.accepted = encodeAcceptedEvent other.accepted := by
    unfold encodeAcceptedEvent
    rw [h.metadata, h.event]
  rw [recordBytes, recordBytes, hevent, encodeEffects_alike h.effects]

/-- What a container tells of the records written to it: all but the arguments of the events and the kinds
of patches that have no name. -/
theorem container_inj {records others : List SessionTraceRecord} :
    container records = container others ↔ List.Forall₂ SessionTraceRecord.Alike records others := by
  rw [container_eq, container_eq, List.append_cancel_left_eq]
  constructor
  · intro h
    have hlist := recordBytes_delimits.list (fun text => text.head? = some 0x4e) recordBytes_head
      fun text htext => ⟨trivial, by rw [htext]; decide⟩
    have hempty : (True ∧ ¬ ([] : List UInt8).head? = some 0x65) ∧ ¬ ([] : List UInt8).head? = some 0x4e :=
      ⟨⟨trivial, by decide⟩, by decide⟩
    exact (@hlist records others [] [] hempty hempty (congrArg (· ++ []) h)).1
  · intro h
    induction h with
    | nil => rfl
    | cons hfirst _ ih => rw [List.flatMap_cons, List.flatMap_cons, recordBytes_alike hfirst, ih]

/-- **A container tells records apart that differ in what it keeps**: of two sequences with the same
container, the records are the same exactly if they are no different records that agree on all but the
arguments of events and the kinds of patches without a name. -/
theorem container_determines (records others : List SessionTraceRecord) :
    (container records = container others → records = others) ↔
      records = others ∨ ¬ List.Forall₂ SessionTraceRecord.Alike records others := by
  rw [container_inj, imp_iff_or_not]

/-- A record of output of a pane. -/
def outputRecord (bytes : List UInt8) : SessionTraceRecord where
  accepted := { metadata := ⟨0, 5, "pane-1", .pane⟩, event := .paneOutput "pane-1" bytes }
  effects := []

/-- Different output of a pane has the same container. -/
theorem container_output : container [outputRecord [0x61]] = container [outputRecord [0x62]] ∧
    [outputRecord [0x61]] ≠ [outputRecord [0x62]] :=
  ⟨container_inj.mpr (.cons ⟨rfl, rfl, .nil⟩ .nil), by decide⟩

end TraceContainerWriter

end Nmux
