import Mathlib.Data.List.DropRight
import Nmux.Lib.Check
import Nmux.Lib.Fields

/-! The handshake on a TCP connection. The client sends a line with its token and waits for a line; the
server reads one line, byte by byte, and answers. Both then go on with the frames of the protocol on the
same connection, so it matters that neither reads past the line it waits for. -/
namespace Nmux.Wire

open Lib.Check

/-! ### Streams -/

/-- The kinds of error of the handshake. A write that fails has a kind of its own. -/
inductive AuthErrorKind where
  | invalidInput
  | invalidData
  | permissionDenied
  | unexpectedEof
  | unwritable
deriving DecidableEq, Repr

structure AuthError where
  kind : AuthErrorKind
  message : String
deriving DecidableEq, Repr

/-- One end of a connection: what will arrive before it is closed, what was written, and whether writes
go through. -/
structure TcpStream where
  incoming : List UInt8
  written : List UInt8
  writable : Bool
deriving DecidableEq, Repr

def TcpStream.writeAll (text : String) (stream : TcpStream) : Except AuthError TcpStream :=
  if stream.writable then .ok { stream with written := stream.written ++ text.toUTF8.toList }
  else .error ⟨.unwritable, "broken pipe"⟩

/-! ### Lines -/

def validateTcpToken (token : String) : Except AuthError Unit :=
  if token.isEmpty || token.toUTF8.toList.any fun byte => byte ∈ [0x0a, 0x0d, 0x20, 0x09] then
    .error ⟨.invalidInput, "TCP token must be non-empty and must not contain whitespace"⟩
  else .ok ()

/-- `trim_end_matches('\r')`. -/
def trimReturns (line : String) : String := String.ofList (line.toList.rdropWhile (· == '\r'))

/-- The loop of `read_tcp_auth_line`, with the bytes it has read. -/
def readAuthLineFrom (bytes : List UInt8) : List UInt8 → Except AuthError (String × List UInt8)
  | [] =>
    if bytes.length < 4096 then .error ⟨.unexpectedEof, "failed to fill whole buffer"⟩
    else .error ⟨.invalidData, "TCP auth line exceeded 4096 bytes"⟩
  | byte :: rest =>
    if bytes.length < 4096 then
      if byte = 0x0a then
        match Lib.utf8Text bytes with
        | .ok line => .ok (trimReturns line, rest)
        | .error message => .error ⟨.invalidData, "invalid TCP auth line: " ++ message⟩
      else readAuthLineFrom (bytes ++ [byte]) rest
    else .error ⟨.invalidData, "TCP auth line exceeded 4096 bytes"⟩

def readTcpAuthLine (stream : TcpStream) : Except AuthError (String × TcpStream) := do
  let (line, rest) ← readAuthLineFrom [] stream.incoming
  return (line, { stream with incoming := rest })

/-! ### The parties -/

def authRequest (token : String) : String := "NMUX-TCP/1 " ++ token

/-- `authenticate_tcp_client`, and the stream it leaves. What is left to arrive is what the bridge hands
on; an end that fails is closed. -/
def authenticateTcpClient (token : String) (stream : TcpStream) : Except AuthError Unit × TcpStream :=
  match validateTcpToken token with
  | .error error => (.error error, stream)
  | .ok () =>
    match stream.writeAll (authRequest token ++ "\n") with
    | .error error => (.error error, stream)
    | .ok stream =>
      match readTcpAuthLine stream with
      | .error error => (.error error, stream)
      | .ok (response, stream) =>
        if response ≠ "NMUX-TCP/1 OK" then
          (.error ⟨.permissionDenied, "TCP authentication rejected: " ++ response⟩, stream)
        else (.ok (), stream)

/-- `authenticate_tcp_server`; a connection that is refused is answered too. -/
def authenticateTcpServer (token : String) (stream : TcpStream) : Except AuthError Unit × TcpStream :=
  match validateTcpToken token with
  | .error error => (.error error, stream)
  | .ok () =>
    match readTcpAuthLine stream with
    | .error error => (.error error, stream)
    | .ok (request, stream) =>
      if request ≠ authRequest token then
        let answered := (stream.writeAll "NMUX-TCP/1 ERR\n").toOption.getD stream
        (.error ⟨.permissionDenied, "TCP authentication failed"⟩, answered)
      else
        match stream.writeAll "NMUX-TCP/1 OK\n" with
        | .error error => (.error error, stream)
        | .ok stream => (.ok (), stream)

/-! ### Lines that are read -/

theorem utf8Text_eq_ok {bytes : List UInt8} {text : String} (h : Lib.utf8Text bytes = .ok text) :
    text.toUTF8.toList = bytes := by
  unfold Lib.utf8Text at h
  split at h
  case h_2 => cases h
  case h_1 read hread =>
    obtain rfl := Except.ok.inj h
    unfold String.fromUTF8? at hread
    split at hread
    case isFalse => cases hread
    case isTrue hvalid =>
      obtain rfl := Option.some.inj hread
      show (ByteArray.mk bytes.toArray).toList = bytes
      rw [Lib.byteArray_toList]

theorem readAuthLineFrom_eq_ok {bytes incoming rest : List UInt8} {line : String} :
    readAuthLineFrom bytes incoming = .ok (line, rest) ↔ ∃ more text, incoming = more ++ 0x0a :: rest ∧
      0x0a ∉ more ∧ bytes.length + more.length < 4096 ∧ text.toUTF8.toList = bytes ++ more ∧
      line = trimReturns text := by
  induction incoming generalizing bytes with
  | nil =>
    unfold readAuthLineFrom
    constructor
    · intro h
      split at h <;> cases h
    · rintro ⟨more, text, hincoming, -⟩
      exact absurd hincoming.symm (by simp)
  | cons byte incoming ih =>
    unfold readAuthLineFrom
    by_cases hlong : bytes.length < 4096
    · rw [if_pos hlong]
      by_cases hend : byte = 0x0a
      · rw [if_pos hend]
        constructor
        · intro h
          split at h
          case h_2 => cases h
          case h_1 text htext =>
            obtain ⟨rfl, rfl⟩ := Prod.mk.inj (Except.ok.inj h)
            exact ⟨[], text, by rw [hend]; rfl, List.not_mem_nil, hlong,
              (utf8Text_eq_ok htext).trans (List.append_nil _).symm, rfl⟩
        · rintro ⟨more, text, hincoming, hmore, -, htext, rfl⟩
          cases more with
          | cons first more =>
            obtain ⟨rfl, -⟩ := List.cons.inj hincoming
            exact absurd (hend ▸ List.mem_cons_self) hmore
          | nil =>
            obtain ⟨-, rfl⟩ := List.cons.inj hincoming
            rw [List.append_nil] at htext
            rw [← htext, Lib.utf8Text_toUTF8]
      · rw [if_neg hend, ih]
        constructor
        · rintro ⟨more, text, rfl, hmore, hbound, htext, rfl⟩
          refine ⟨byte :: more, text, rfl, ?_, ?_, ?_, rfl⟩
          · rw [List.mem_cons, not_or]
            exact ⟨fun heq => hend heq.symm, hmore⟩
          · rw [List.length_append, List.length_singleton] at hbound
            rw [List.length_cons]
            omega
          · rw [htext, List.append_assoc, List.singleton_append]
        · rintro ⟨more, text, hincoming, hmore, hbound, htext, rfl⟩
          cases more with
          | nil => exact absurd (List.cons.inj hincoming).1 hend
          | cons first more =>
            obtain ⟨rfl, rfl⟩ := List.cons.inj hincoming
            refine ⟨more, text, rfl, fun hmem => hmore (List.mem_cons_of_mem _ hmem), ?_, ?_, rfl⟩
            · rw [List.length_append, List.length_singleton]
              rw [List.length_cons] at hbound
              omega
            · rw [htext, List.append_assoc, List.singleton_append]
    · rw [if_neg hlong]
      constructor
      · intro h
        cases h
      · rintro ⟨more, text, -, -, hbound, -⟩
        omega

/-- A line that does not end in a return is what is left of it and any returns. -/
theorem trimReturns_eq {text line : String} (hline : line.toList.getLast? ≠ some '\r') :
    trimReturns text = line ↔ ∃ returns, text.toList = line.toList ++ List.replicate returns '\r' := by
  unfold trimReturns
  constructor
  · intro h
    have hkept : text.toList.rdropWhile (· == '\r') = line.toList := by
      rw [← h, String.toList_ofList]
    refine ⟨(text.toList.rtakeWhile (· == '\r')).length, ?_⟩
    have hall : text.toList.rtakeWhile (· == '\r') =
        List.replicate (text.toList.rtakeWhile (· == '\r')).length '\r' :=
      List.eq_replicate_of_mem fun ch hch => by simpa using List.mem_rtakeWhile_imp hch
    rw [← hall, ← hkept]
    exact List.rdropWhile_append_rtakeWhile.symm
  · rintro ⟨returns, htext⟩
    have hdropped : ∀ count, (line.toList ++ List.replicate count '\r').rdropWhile (· == '\r') =
        line.toList := by
      intro count
      induction count with
      | zero =>
        rw [List.replicate_zero, List.append_nil, List.rdropWhile_eq_self_iff]
        intro hne hlast
        refine hline ?_
        rw [List.getLast?_eq_getLast_of_ne_nil hne]
        exact congrArg some (by simpa using hlast)
      | succ count ih =>
        rw [List.replicate_succ', ← List.append_assoc, List.rdropWhile_concat_pos _ _ _ (by simp), ih]
    rw [htext, hdropped, String.ofList_toList]

/-! ### Tokens -/

/-- A byte below 128 is a character. -/
theorem char_of_byte {text : String} {ch : Char} {byte : UInt8} (h : byte ∈ text.toUTF8.toList)
    (hbyte : byte.toNat < 0x80) (hch : byte.toNat = ch.toNat) : ch ∈ text.toList := by
  rw [Lib.toUTF8_toList] at h
  obtain ⟨other, hmem, hother⟩ := List.mem_flatMap.mp h
  have hcode := (Lib.utf8EncodeChar_of_small hother hbyte).1.trans hch
  rwa [show other = ch from Char.ext (UInt32.toNat_inj.mp hcode)] at hmem

/-- A token that is accepted ends no line, and no line ends in it and a return. -/
structure ValidToken (token : String) : Prop where
  newline : '\n' ∉ token.toList
  returns : '\r' ∉ token.toList
  nonempty : token ≠ ""

theorem validateTcpToken_valid {token : String} (h : validateTcpToken token = .ok ()) : ValidToken token := by
  unfold validateTcpToken at h
  split at h
  · cases h
  case isFalse hvalid =>
    rw [Bool.or_eq_true, not_or, List.any_eq_true] at hvalid
    obtain ⟨hempty, hbytes⟩ := hvalid
    rw [Lib.toUTF8_toList] at hbytes
    refine ⟨fun hmem => hbytes ⟨0x0a, ?_, by decide⟩, fun hmem => hbytes ⟨0x0d, ?_, by decide⟩, ?_⟩
    · exact List.mem_flatMap.mpr ⟨'\n', hmem, by decide⟩
    · exact List.mem_flatMap.mpr ⟨'\r', hmem, by decide⟩
    · rintro rfl
      exact hempty rfl

theorem authRequest_toList (token : String) :
    (authRequest token).toList = "NMUX-TCP/1 ".toList ++ token.toList := String.toList_append

theorem authRequest_injective {token other : String} (h : authRequest token = authRequest other) :
    token = other := by
  have hlist := congrArg String.toList h
  rw [authRequest_toList, authRequest_toList] at hlist
  exact String.toList_injective (List.append_cancel_left hlist)

namespace ValidToken

variable {token : String}

theorem last (h : ValidToken token) : (authRequest token).toList.getLast? ≠ some '\r' := by
  intro hlast
  have hne : token.toList ≠ [] := fun hnil => h.nonempty (String.toList_eq_nil_iff.mp hnil)
  rw [authRequest_toList, List.getLast?_append_of_ne_nil _ hne] at hlast
  exact h.returns (List.mem_of_getLast? hlast)

theorem request_newline (h : ValidToken token) : (0x0a : UInt8) ∉ (authRequest token).toUTF8.toList := by
  intro hmem
  have hline : '\n' ∈ _ := char_of_byte hmem (by decide) rfl
  rw [authRequest_toList, List.mem_append] at hline
  exact hline.elim (by simp) h.newline

theorem request_return (h : ValidToken token) : (0x0d : UInt8) ∉ (authRequest token).toUTF8.toList := by
  intro hmem
  have hline : '\r' ∈ _ := char_of_byte hmem (by decide) rfl
  rw [authRequest_toList, List.mem_append] at hline
  exact hline.elim (by simp) h.returns

end ValidToken

/-! ### What the server accepts -/

/-- A line of some text, with returns before its end. -/
def lineBytes (text : String) (returns : Nat) : List UInt8 :=
  text.toUTF8.toList ++ List.replicate returns 0x0d

theorem toUTF8_returns {text line : String} {returns : Nat}
    (h : text.toList = line.toList ++ List.replicate returns '\r') :
    text.toUTF8.toList = lineBytes line returns := by
  have hreturns : (List.replicate returns '\r').flatMap String.utf8EncodeChar =
      List.replicate returns 0x0d := by
    rw [List.flatMap_replicate, show String.utf8EncodeChar '\r' = [0x0d] from by decide,
      List.flatten_replicate_singleton]
  rw [lineBytes, Lib.toUTF8_toList, Lib.toUTF8_toList, h, List.flatMap_append, hreturns]

theorem newline_lineBytes {text : String} {returns : Nat} (h : (0x0a : UInt8) ∉ text.toUTF8.toList) :
    (0x0a : UInt8) ∉ lineBytes text returns := by
  rw [lineBytes, List.mem_append, not_or]
  exact ⟨h, fun hmem => absurd (List.eq_of_mem_replicate hmem) (by decide)⟩

/-- A line is read if it comes whole, in time, and with nothing but returns before its end. -/
theorem readTcpAuthLine_eq_ok {line : String} {stream after : TcpStream}
    (hnewline : (0x0a : UInt8) ∉ line.toUTF8.toList) (hlast : line.toList.getLast? ≠ some '\r') :
    readTcpAuthLine stream = .ok (line, after) ↔ ∃ returns,
      stream.incoming = lineBytes line returns ++ 0x0a :: after.incoming ∧
      (lineBytes line returns).length < 4096 ∧ after = { stream with incoming := after.incoming } := by
  unfold readTcpAuthLine
  rw [bind_eq_ok]
  constructor
  · rintro ⟨⟨read, rest⟩, hread, h⟩
    obtain ⟨rfl, rfl⟩ := Prod.mk.inj (Except.ok.inj h)
    obtain ⟨more, text, hincoming, -, hbound, htext, hline⟩ := readAuthLineFrom_eq_ok.mp hread
    obtain ⟨returns, hreturns⟩ := (trimReturns_eq hlast).mp hline.symm
    rw [List.nil_append, toUTF8_returns hreturns] at htext
    rw [List.length_nil, Nat.zero_add] at hbound
    exact ⟨returns, by rw [htext]; exact hincoming, by rwa [htext], rfl⟩
  · rintro ⟨returns, hincoming, hbound, hafter⟩
    refine ⟨(line, after.incoming), readAuthLineFrom_eq_ok.mpr ?_, by rw [hafter]; rfl⟩
    have htext : (line ++ String.ofList (List.replicate returns '\r')).toList =
        line.toList ++ List.replicate returns '\r' := by
      rw [String.toList_append, String.toList_ofList]
    exact ⟨lineBytes line returns, _, hincoming, newline_lineBytes hnewline,
      by rwa [List.length_nil, Nat.zero_add], toUTF8_returns htext, ((trimReturns_eq hlast).mpr ⟨returns, htext⟩).symm⟩

/-- **The server accepts its token and nothing else.** Whatever a peer sends, and whatever it sends after
that, the server goes on to the protocol exactly if what arrives starts with the line of its own token
within the bound, with nothing but returns before the end of the line; it has then read that line and not
a byte of what follows. -/
theorem authenticateTcpServer_iff (token : String) (stream after : TcpStream) :
    authenticateTcpServer token stream = (.ok (), after) ↔
      validateTcpToken token = .ok () ∧ stream.writable = true ∧
      ∃ returns, stream.incoming = lineBytes (authRequest token) returns ++ 0x0a :: after.incoming ∧
        (lineBytes (authRequest token) returns).length < 4096 ∧
        after = { stream with
          incoming := after.incoming
          written := stream.written ++ "NMUX-TCP/1 OK\n".toUTF8.toList } := by
  unfold authenticateTcpServer
  cases hvalid : validateTcpToken token with
  | error error =>
    dsimp only
    constructor
    · intro h
      cases (Prod.mk.inj h).1
    · rintro ⟨h, -⟩
      cases h
  | ok valid =>
    have htoken := validateTcpToken_valid hvalid
    have hread : ∀ reached, readTcpAuthLine stream = .ok (authRequest token, reached) ↔ _ :=
      fun reached => readTcpAuthLine_eq_ok htoken.request_newline htoken.last
    dsimp only
    constructor
    · intro h
      split at h
      case h_1 =>
        cases (Prod.mk.inj h).1
      case h_2 request reached hline =>
        split at h
        · cases (Prod.mk.inj h).1
        case isFalse hrequest =>
          obtain rfl : request = authRequest token := not_not.mp hrequest
          obtain ⟨returns, hincoming, hbound, hreached⟩ := (hread reached).mp hline
          unfold TcpStream.writeAll at h
          split at h
          case h_1 => cases (Prod.mk.inj h).1
          case h_2 written hwritten =>
            obtain rfl := (Prod.mk.inj h).2
            split at hwritten
            case isFalse => cases hwritten
            case isTrue hwritable =>
              obtain rfl := Except.ok.inj hwritten
              rw [hreached] at hwritable
              refine ⟨rfl, hwritable, returns, hincoming, hbound, ?_⟩
              rw [hreached]
    · rintro ⟨-, hwritable, returns, hincoming, hbound, hafter⟩
      rw [(hread { stream with incoming := after.incoming }).mpr ⟨returns, hincoming, hbound, rfl⟩]
      dsimp only
      rw [if_neg (not_not.mpr rfl), TcpStream.writeAll, if_pos hwritable, hafter]

/-! ### The two ends of a connection -/

def okLine : String := "NMUX-TCP/1 OK"

theorem okLine_newline : (0x0a : UInt8) ∉ okLine.toUTF8.toList := fun hmem => by
  have hline : '\n' ∈ _ := char_of_byte hmem (by decide) rfl
  simp [okLine] at hline

theorem okLine_last : okLine.toList.getLast? ≠ some '\r' := by simp [okLine]

theorem toUTF8_line (text : String) : (text ++ "\n").toUTF8.toList = lineBytes text 0 ++ [0x0a] := by
  rw [Lib.toUTF8_append, lineBytes, List.replicate_zero, List.append_nil,
    show "\n".toUTF8.toList = [0x0a] from by rw [Lib.toUTF8_toList]; rfl]

/-- The client goes on exactly if the answer that arrives is the server's. -/
theorem authenticateTcpClient_iff (token : String) (stream after : TcpStream) :
    authenticateTcpClient token stream = (.ok (), after) ↔
      validateTcpToken token = .ok () ∧ stream.writable = true ∧
      ∃ returns, stream.incoming = lineBytes okLine returns ++ 0x0a :: after.incoming ∧
        (lineBytes okLine returns).length < 4096 ∧
        after = { stream with
          incoming := after.incoming
          written := stream.written ++ (authRequest token ++ "\n").toUTF8.toList } := by
  unfold authenticateTcpClient TcpStream.writeAll
  cases hvalid : validateTcpToken token with
  | error error =>
    dsimp only
    constructor
    · intro h
      cases (Prod.mk.inj h).1
    · rintro ⟨h, -⟩
      cases h
  | ok valid =>
    dsimp only
    by_cases hwritable : stream.writable = true
    · rw [if_pos hwritable]
      dsimp only
      constructor
      · intro h
        split at h
        case h_1 => cases (Prod.mk.inj h).1
        case h_2 response reached hline =>
          split at h
          · cases (Prod.mk.inj h).1
          case isFalse hresponse =>
            obtain rfl : response = okLine := not_not.mp hresponse
            obtain rfl := (Prod.mk.inj h).2
            obtain ⟨returns, hincoming, hbound, hreached⟩ :=
              (readTcpAuthLine_eq_ok okLine_newline okLine_last).mp hline
            exact ⟨rfl, hwritable, returns, hincoming, hbound, hreached⟩
      · rintro ⟨-, -, returns, hincoming, hbound, hafter⟩
        rw [(@readTcpAuthLine_eq_ok okLine { stream with
            written := stream.written ++ (authRequest token ++ "\n").toUTF8.toList } after okLine_newline okLine_last).mpr
          ⟨returns, hincoming, hbound, hafter⟩]
        exact if_neg (not_not.mpr rfl)
    · rw [if_neg hwritable]
      constructor
      · intro h
        cases (Prod.mk.inj h).1
      · rintro ⟨-, h, -⟩
        exact absurd h hwritable

/-- What a client has written is nothing or its request. -/
theorem authenticateTcpClient_written (token : String) {client : TcpStream} (hfresh : client.written = []) :
    (authenticateTcpClient token client).2.written = [] ∨ validateTcpToken token = .ok () ∧
      (authenticateTcpClient token client).2.written = lineBytes (authRequest token) 0 ++ [0x0a] := by
  unfold authenticateTcpClient TcpStream.writeAll
  cases validateTcpToken token with
  | error error => exact .inl hfresh
  | ok valid =>
    dsimp only
    split
    case h_1 => exact .inl hfresh
    case h_2 sent hsent =>
      split at hsent
      case isFalse => cases hsent
      case isTrue =>
        obtain rfl := Except.ok.inj hsent
        have hwritten : client.written ++ (authRequest token ++ "\n").toUTF8.toList =
            lineBytes (authRequest token) 0 ++ [0x0a] := by
          rw [hfresh, List.nil_append, toUTF8_line]
        refine .inr ⟨rfl, ?_⟩
        split
        · exact hwritten
        case h_2 response reached hline =>
          obtain ⟨⟨line, rest⟩, -, h⟩ := bind_eq_ok.mp hline
          obtain ⟨-, rfl⟩ := Prod.mk.inj (Except.ok.inj h)
          split <;> exact hwritten

/-- What a server has written is nothing, a refusal or its answer. -/
theorem authenticateTcpServer_written (token : String) {server : TcpStream} (hfresh : server.written = []) :
    (authenticateTcpServer token server).1 = .ok () ∨
      (authenticateTcpServer token server).2.written = [] ∨
      (authenticateTcpServer token server).2.written = lineBytes "NMUX-TCP/1 ERR" 0 ++ [0x0a] := by
  unfold authenticateTcpServer TcpStream.writeAll
  cases validateTcpToken token with
  | error error => exact .inr (.inl hfresh)
  | ok valid =>
    dsimp only
    split
    case h_1 => exact .inr (.inl hfresh)
    case h_2 request reached hline =>
      obtain ⟨⟨line, rest⟩, -, h⟩ := bind_eq_ok.mp hline
      obtain ⟨-, rfl⟩ := Prod.mk.inj (Except.ok.inj h)
      split
      · split
        · exact .inr (.inr (by
            show server.written ++ ("NMUX-TCP/1 ERR" ++ "\n").toUTF8.toList = _
            rw [hfresh, List.nil_append, toUTF8_line]))
        · exact .inr (.inl hfresh)
      · split
        case h_1 => exact .inr (.inl hfresh)
        case h_2 => exact .inl rfl

/-- The two ends of one connection, each as it will be read to its end. An end receives a front of what the
other one wrote, followed, once the other one has gone on to the protocol, by what it sends there. -/
structure Connected (clientToken serverToken : String) (up down : List UInt8) (client server : TcpStream) :
    Prop where
  clientFresh : client.written = []
  serverFresh : server.written = []
  toServer : server.incoming <+: (authenticateTcpClient clientToken client).2.written ++
    if (authenticateTcpClient clientToken client).1 = .ok () then up else []
  toClient : client.incoming <+: (authenticateTcpServer serverToken server).2.written ++
    if (authenticateTcpServer serverToken server).1 = .ok () then down else []

/-- Two texts with a first line each: if one is the front of the other, the lines are the same. -/
theorem line_front {line other rest more : List UInt8} (hline : (0x0a : UInt8) ∉ line)
    (hother : (0x0a : UInt8) ∉ other) (h : line ++ 0x0a :: rest <+: other ++ 0x0a :: more) :
    line = other ∧ rest <+: more := by
  induction line generalizing other with
  | nil =>
    cases other with
    | nil => exact ⟨rfl, (List.cons_prefix_cons.mp h).2⟩
    | cons byte other => exact absurd ((List.cons_prefix_cons.mp h).1 ▸ List.mem_cons_self) hother
  | cons byte line ih =>
    cases other with
    | nil => exact absurd ((List.cons_prefix_cons.mp h).1 ▸ List.mem_cons_self) hline
    | cons first other =>
      obtain ⟨rfl, hfront⟩ := List.cons_prefix_cons.mp h
      obtain ⟨rfl, hrest⟩ := ih (fun hmem => hline (List.mem_cons_of_mem _ hmem))
        (fun hmem => hother (List.mem_cons_of_mem _ hmem)) hfront
      exact ⟨rfl, hrest⟩

section
variable {clientToken serverToken : String} {up down : List UInt8} {client server : TcpStream}

/-- A server that accepts was sent its own token by the client at the other end. -/
theorem Connected.served (h : Connected clientToken serverToken up down client server) {served : TcpStream}
    (haccepted : authenticateTcpServer serverToken server = (.ok (), served)) :
    clientToken = serverToken ∧ served.incoming <+: up := by
  obtain ⟨hvalid, -, returns, hincoming, -, -⟩ := (authenticateTcpServer_iff _ _ _).mp haccepted
  have hserver := validateTcpToken_valid hvalid
  have harrived := h.toServer
  rw [hincoming] at harrived
  rcases authenticateTcpClient_written clientToken h.clientFresh with hnothing | ⟨hsent, hwritten⟩
  · -- nothing was sent, and then the client did not go on either
    have hfailed : (authenticateTcpClient clientToken client).1 ≠ .ok () := by
      intro hok
      obtain ⟨-, -, -, -, -, hafter⟩ := (authenticateTcpClient_iff clientToken client
        (authenticateTcpClient clientToken client).2).mp (Prod.ext hok rfl)
      rw [hafter, h.clientFresh, List.nil_append, toUTF8_line] at hnothing
      exact absurd hnothing (by simp)
    rw [hnothing, if_neg hfailed] at harrived
    exact absurd (List.prefix_nil.mp harrived) (by simp)
  · have hclient := validateTcpToken_valid hsent
    rw [hwritten, List.append_assoc, List.singleton_append] at harrived
    obtain ⟨hsame, hrest⟩ := line_front (newline_lineBytes hserver.request_newline)
      (newline_lineBytes hclient.request_newline) harrived
    refine ⟨(authRequest_injective ?_).symm, hrest.trans ?_⟩
    · refine Lib.toUTF8_injective ?_
      cases returns with
      | zero =>
        rw [lineBytes, lineBytes, List.replicate_zero, List.append_nil, List.append_nil] at hsame
        exact hsame
      | succ returns =>
        refine absurd ?_ hclient.request_return
        rw [lineBytes, lineBytes, List.replicate_zero, List.append_nil] at hsame
        rw [← hsame, List.mem_append]
        exact .inr (List.mem_replicate.mpr ⟨Nat.succ_ne_zero _, rfl⟩)
    · split
      · exact List.prefix_rfl
      · exact List.nil_prefix

/-- A client that goes on was answered by a server that accepts it. -/
theorem Connected.attached (h : Connected clientToken serverToken up down client server)
    {attached : TcpStream} (haccepted : authenticateTcpClient clientToken client = (.ok (), attached)) :
    attached.incoming <+: down ∧ ∃ served, authenticateTcpServer serverToken server = (.ok (), served) := by
  obtain ⟨-, -, returns, hincoming, -, -⟩ := (authenticateTcpClient_iff _ _ _).mp haccepted
  have harrived := h.toClient
  rw [hincoming] at harrived
  by_cases hserver : (authenticateTcpServer serverToken server).1 = .ok ()
  · obtain ⟨-, -, -, -, -, hafter⟩ := (authenticateTcpServer_iff serverToken server
      (authenticateTcpServer serverToken server).2).mp (Prod.ext hserver rfl)
    rw [if_pos hserver, hafter, h.serverFresh, List.nil_append,
      show "NMUX-TCP/1 OK\n" = okLine ++ "\n" from rfl, toUTF8_line, List.append_assoc,
      List.singleton_append] at harrived
    exact ⟨(line_front (newline_lineBytes okLine_newline) (newline_lineBytes okLine_newline) harrived).2, _,
      Prod.ext hserver rfl⟩
  · rw [if_neg hserver, List.append_nil] at harrived
    rcases (authenticateTcpServer_written serverToken h.serverFresh).resolve_left hserver with
      hnothing | hrefused
    · rw [hnothing] at harrived
      exact absurd (List.prefix_nil.mp harrived) (by simp)
    · rw [hrefused] at harrived
      have herr : (0x0a : UInt8) ∉ "NMUX-TCP/1 ERR".toUTF8.toList := fun hmem => by
        have hline : '\n' ∈ _ := char_of_byte hmem (by decide) rfl
        simp at hline
      obtain ⟨hsame, -⟩ := line_front (newline_lineBytes okLine_newline) (newline_lineBytes herr) harrived
      rw [lineBytes, lineBytes, Lib.toUTF8_toList, Lib.toUTF8_toList] at hsame
      exact absurd (congrArg (·[11]?) hsame) (by
        show some (0x4f : UInt8) ≠ some 0x45
        decide)

/-- A server that is sent its token in time answers. -/
theorem Connected.completes (hvalid : validateTcpToken serverToken = .ok ())
    (hshort : (authRequest serverToken).toUTF8.toList.length < 4096) (hserver : server.writable = true)
    (hsent : server.incoming = lineBytes (authRequest serverToken) 0 ++ 0x0a :: up) :
    ∃ served, authenticateTcpServer serverToken server = (.ok (), served) ∧ served.incoming = up ∧
      served.written = server.written ++ (okLine ++ "\n").toUTF8.toList := by
  have hbound : (lineBytes (authRequest serverToken) 0).length < 4096 := by
    rwa [lineBytes, List.replicate_zero, List.append_nil]
  exact ⟨{ server with incoming := up, written := server.written ++ (okLine ++ "\n").toUTF8.toList },
    (authenticateTcpServer_iff _ _ _).mpr ⟨hvalid, hserver, 0, hsent, hbound, rfl⟩, rfl, rfl⟩

/-- **The handshake agrees.** Whatever part of what the ends write gets through, and in whatever order the
bytes of the two directions come: a client that goes on to the protocol is at the other end of a server that
accepted it; a server that accepts is at the other end of a client with its own token; and what either end
then reads is a front of what the other one sends in the protocol, nothing of the handshake and nothing
lost from the front. When the tokens are the same and fit the bound and all that is written gets through,
both go on and read all of it. -/
theorem handshake_agrees (h : Connected clientToken serverToken up down client server) :
    (∀ attached, authenticateTcpClient clientToken client = (.ok (), attached) →
      attached.incoming <+: down ∧ ∃ served, authenticateTcpServer serverToken server = (.ok (), served)) ∧
    (∀ served, authenticateTcpServer serverToken server = (.ok (), served) →
      clientToken = serverToken ∧ served.incoming <+: up) ∧
    (clientToken = serverToken → validateTcpToken serverToken = .ok () →
      (authRequest serverToken).toUTF8.toList.length < 4096 →
      client.writable = true → server.writable = true →
      server.incoming = (authRequest clientToken ++ "\n").toUTF8.toList ++ up →
      client.incoming = (authenticateTcpServer serverToken server).2.written ++ down →
      ∃ attached served, authenticateTcpClient clientToken client = (.ok (), attached) ∧
        authenticateTcpServer serverToken server = (.ok (), served) ∧
        attached.incoming = down ∧ served.incoming = up) := by
  refine ⟨fun attached => h.attached, fun served => h.served, ?_⟩
  rintro rfl hvalid hshort hclient hserver hsent hanswered
  rw [toUTF8_line, List.append_assoc, List.singleton_append] at hsent
  obtain ⟨served, hserved, hup, hwritten⟩ := Connected.completes hvalid hshort hserver hsent
  rw [hserved] at hanswered
  dsimp only at hanswered
  rw [hwritten, h.serverFresh, List.nil_append, toUTF8_line, List.append_assoc, List.singleton_append]
    at hanswered
  have hok : (lineBytes okLine 0).length < 4096 := by
    rw [lineBytes, List.replicate_zero, List.append_nil, Lib.toUTF8_toList]
    decide
  exact ⟨_, served, (authenticateTcpClient_iff _ _ { client with
      incoming := down
      written := client.written ++ (authRequest clientToken ++ "\n").toUTF8.toList }).mpr
    ⟨hvalid, hclient, 0, hanswered, hok, rfl⟩, hserved, rfl, hup⟩

/-- Two ends with a token in common, and a frame in each direction. -/
theorem handshake_agrees_token : ∃ attached served,
    authenticateTcpClient "token" ⟨"NMUX-TCP/1 OK\n".toUTF8.toList ++ [1, 2], [], true⟩ = (.ok (), attached) ∧
    authenticateTcpServer "token" ⟨"NMUX-TCP/1 token\n".toUTF8.toList ++ [3], [], true⟩ = (.ok (), served) ∧
    attached.incoming = [1, 2] ∧ served.incoming = [3] :=
  (@handshake_agrees "token" "token" [3] [1, 2] _ _ ⟨rfl, rfl, by decide +kernel, by decide +kernel⟩).2.2 rfl
    (by decide +kernel) (by decide +kernel) rfl rfl (by decide +kernel) (by decide +kernel)

end

end Nmux.Wire
