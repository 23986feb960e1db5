import Sf4e.Lib.JsonText
import Sf4e.Netplay.Messages
import Sf4e.Netplay.Room
import Sf4e.Session.Text
/-!
# The room over bytes

The room again, with channels that carry what is dumped: each end parses what the other wrote.
`wired_refines`: where the texts are valid, before and after they are cut (`Clean`, `Sound`), nothing
is lost on the way, and what such a room does is what the room does whose channels carry the messages
themselves.
-/
open Sf4e.Lib Sf4e.Session

namespace Sf4e.Netplay

/-- `dump` and `parse` of the JSON library. `dump` throws on text that is not valid. -/
structure JsonLibrary where
  dump : Json → Option Bytes
  parse : Bytes → Option Json

/-- What is plain comes back from its text. -/
def JsonLibrary.Faithful (lib : JsonLibrary) : Prop :=
  ∀ j : Json, j.Plain → ∃ data, lib.dump j = some data ∧ lib.parse data = some j

/-- A client's message on its way. -/
structure RawUp where
  data : Bytes
  number : ℕ
  battle : ℕ

/-- A message to a client on its way. -/
structure RawDown where
  data : Bytes
  battle : ℕ

structure WiredRoom where
  server : Stepping
  clients : Sides SessionClient
  up : Sides (List RawUp)
  down : Sides (List RawDown)
  calls : ℕ

section

variable (lib : JsonLibrary)

/-! ## What is written -/

def writeUp (msg : ClientMsg) : Option Bytes :=
  match msg with
  | .battleSnapshot data => some data
  | msg => msg.toJson.bind lib.dump

def rawUp (u : Up) : Option RawUp := (writeUp lib u.msg).map (⟨·, u.number, u.battle⟩)

/-- What an output puts into the channel of `conn`. A relayed snapshot goes out as it came. -/
def rawTo (conn : Conn) : Out → List Bytes
  | .respond c msg => if c = conn then (lib.dump msg.toJson).toList else []
  | .broadcast conns msg => (conns.filter (· = conn)).flatMap fun _ => (lib.dump msg.toJson).toList
  | .relay c data => if c = conn then [data] else []
  | .logStat _ _ => []
  | .closeConnection _ => []

namespace WiredRoom

def post (w : WiredRoom) (p : Stepping) (out : List Out) (battle : ℕ) : WiredRoom :=
  { w with
    server := p
    down := .of fun i => w.down.get i ++ (out.flatMap (rawTo lib (w.clients.get i).conn)).map (⟨·, battle⟩) }

def put (w : WiredRoom) (i : Side) (c : SessionClient) (sent : List Up) : WiredRoom :=
  { w with clients := w.clients.set i c, up := w.up.set i (w.up.get i ++ sent.filterMap (rawUp lib)) }

/-- The oldest message of client `i`, as the server reads it. -/
def incoming (w : WiredRoom) (i : Side) (x : RawUp) (peerAddr : PeerAddr) (tick : Tick) : IncomingMsg :=
  ⟨(w.clients.get i).conn, .ofBytes lib.parse x.data, x.number, peerAddr, tick⟩

def serve (w : WiredRoom) (i : Side) (peerAddr : PeerAddr) (tick : Tick) : WiredRoom × List Sight :=
  match w.up.get i with
  | [] => (w, [])
  | x :: rest =>
    let (p, out) := handleMessage w.server (w.incoming lib i x peerAddr tick)
    ({ w with up := w.up.set i rest }.post lib p out x.battle, out.map .server)

def endStep (w : WiredRoom) (tick : Tick) : WiredRoom × List Sight :=
  let (p, out) := finishStep w.server tick
  let calls := if w.server.bSendLobbyAllReady then w.calls + 1 else w.calls
  ({ w with calls }.post lib p out calls, out.map .server)

def deliver (w : WiredRoom) (i : Side) : WiredRoom × List Sight :=
  match w.down.get i with
  | [] => (w, [])
  | x :: rest =>
    let c := w.clients.get i
    let (c', sent, leave) := c.receiveBytes lib.parse x.data x.battle
    ({ w with down := w.down.set i rest }.put lib i c' sent, if leave then [.told i (.leave c.battle)] else [])

def perform (w : WiredRoom) (i : Side) (d : Doing) : WiredRoom × List Sight :=
  let (c, sent, told) := (w.clients.get i).perform d
  (w.put lib i c sent, told.map (.told i))

end WiredRoom

/-- The two clients and the server, with bytes between them. -/
def wiredRoom : Machine WiredRoom Move Sight where
  next w
    | .serve i peerAddr tick => w.serve lib i peerAddr tick
    | .endStep tick => w.endStep lib tick
    | .deliver i => w.deliver lib i
    | .perform i d => w.perform lib i d

/-! ## What the messages are about -/

/-- The bytes are a snapshot. -/
def IsSnapshot (data : Bytes) : Prop := ClientMsg.ofBytes lib.parse data = .battleSnapshot data

/-- A client's message that is written, and read as it was meant. -/
def Writes : ClientMsg → Prop
  | .battleSnapshot data => IsSnapshot lib data
  | msg => msg.toJson.isSome = true ∧ msg.Utf8

/-- What is on its way up is what was sent. -/
structure ReadsUp (x : RawUp) (u : Up) : Prop where
  msg : ClientMsg.ofBytes lib.parse x.data = u.msg
  number : x.number = u.number
  battle : x.battle = u.battle

/-- What is on its way down is what was sent, with the snapshots between. -/
inductive Delivers : List RawDown → List Down → Prop
  | nil : Delivers [] []
  | message {x : RawDown} {d : Down} {xs : List RawDown} {ds : List Down} (hmsg : d.msg.Writable)
      (hparse : lib.parse x.data = some d.msg.toJson) (hbattle : x.battle = d.battle) (h : Delivers xs ds) :
      Delivers (x :: xs) (d :: ds)
  | snapshot {x : RawDown} {xs : List RawDown} {ds : List Down} (hread : IsSnapshot lib x.data) (h : Delivers xs ds) :
      Delivers (x :: xs) ds

/-- The two rooms are in the same state, flags of members apart. -/
structure Carries (w : WiredRoom) (r : Room) : Prop where
  server : w.server = r.server
  calls : w.calls = r.calls
  clients : ∀ i, w.clients.get i = (r.clients.get i).unflagged
  up : ∀ i, List.Forall₂ (ReadsUp lib) (w.up.get i) (r.up.get i)
  down : ∀ i, Delivers lib (w.down.get i) (r.down.get i)

end

/-! ## Channels -/

section

variable {lib : JsonLibrary}

theorem rawUp_reads (hlib : lib.Faithful) {u : Up} (h : Writes lib u.msg) :
    ∃ x, rawUp lib u = some x ∧ ReadsUp lib x u := by
  obtain ⟨msg, number, battle⟩ := u
  have hjson : ∀ j, msg.toJson = some j → writeUp lib msg = lib.dump j → msg.Utf8 →
      ∃ x, rawUp lib ⟨msg, number, battle⟩ = some x ∧ ReadsUp lib x ⟨msg, number, battle⟩ := by
    intro j hj hwrite hutf8
    obtain ⟨data, hdump, hparse⟩ := hlib j (ClientMsg.plain hj hutf8)
    refine ⟨⟨data, number, battle⟩, ?_, ?_, rfl, rfl⟩
    · rw [rawUp, hwrite, hdump]
      rfl
    · rw [ClientMsg.ofBytes, hparse]
      exact ClientMsg.ofJson_toJson hj data
  have hnone : msg.toJson = none → msg.toJson.isSome ≠ true := by
    intro hj
    simp [hj]
  cases hmsg : msg with
  | battleSnapshot data =>
    rw [hmsg] at h
    exact ⟨⟨data, number, battle⟩, rfl, h, rfl, rfl⟩
  | _ =>
    rw [hmsg] at h hjson
    obtain ⟨hsome, hutf8⟩ := h
    obtain ⟨j, hj⟩ := Option.isSome_iff_exists.1 hsome
    refine hjson j hj ?_ hutf8
    rw [writeUp, hj]
    · rfl
    · exact nofun

/-- What is sent up arrives. -/
theorem sent_arrives (hlib : lib.Faithful) {sent : List Up} (h : ∀ u ∈ sent, Writes lib u.msg) :
    List.Forall₂ (ReadsUp lib) (sent.filterMap (rawUp lib)) sent := by
  induction sent with
  | nil => exact .nil
  | cons u sent ih =>
    rw [List.forall_mem_cons] at h
    obtain ⟨x, hx, hreads⟩ := rawUp_reads hlib h.1
    rw [List.filterMap_cons_some hx]
    exact .cons hreads (ih h.2)

/-- A snapshot does not concern the lobby. -/
theorem receiveBytes_snapshot {data : Bytes} (h : IsSnapshot lib data) (c : SessionClient) (battle : ℕ) :
    c.receiveBytes lib.parse data battle = (c, [], false) := by
  unfold IsSnapshot ClientMsg.ofBytes at h
  unfold SessionClient.receiveBytes
  cases hj : lib.parse data with
  | none => rfl
  | some j =>
    rw [hj] at h
    dsimp only at h
    dsimp only
    unfold ClientMsg.ofJson at h
    unfold SessionClient.receiveJson
    cases ht : j.at' (ascii "type") with
    | error e => rfl
    | ok t =>
      rw [ht] at h
      dsimp only at h
      dsimp only
      generalize MessageType.ofJson t = type at h ⊢
      cases type with
      | battleSnapshot => rfl
      | _ => cases h

theorem Delivers.append {xs ys : List RawDown} {ds es : List Down} (h : Delivers lib xs ds) (h' : Delivers lib ys es) :
    Delivers lib (xs ++ ys) (ds ++ es) := by
  induction h with
  | nil => exact h'
  | message hmsg hparse hbattle _ ih => exact .message hmsg hparse hbattle ih
  | snapshot hread _ ih => exact .snapshot hread ih

/-- An output that goes out whole. -/
def SendsWell (lib : JsonLibrary) : Out → Prop
  | .respond _ msg => msg.Writable
  | .broadcast _ msg => msg.Writable
  | .relay _ data => IsSnapshot lib data
  | .logStat _ _ => True
  | .closeConnection _ => True

theorem delivers_one (hlib : lib.Faithful) {msg : ServerMsg} (h : msg.Writable) (battle : ℕ) :
    Delivers lib ((lib.dump msg.toJson).toList.map (⟨·, battle⟩)) [⟨msg, battle⟩] := by
  obtain ⟨data, hdump, hparse⟩ := hlib msg.toJson h.plain
  rw [hdump]
  exact .message h hparse rfl .nil

theorem delivers_out (hlib : lib.Faithful) {o : Out} (h : SendsWell lib o) (conn : Conn) (battle : ℕ) :
    Delivers lib ((rawTo lib conn o).map (⟨·, battle⟩)) ((sentTo conn o).map (⟨·, battle⟩)) := by
  cases o with
  | respond c msg =>
    simp only [rawTo, sentTo]
    split
    · exact delivers_one hlib h battle
    · exact .nil
  | broadcast conns msg =>
    simp only [rawTo, sentTo]
    induction conns.filter (· = conn) with
    | nil => exact .nil
    | cons c conns ih =>
      rw [List.flatMap_cons, List.map_append, List.map_cons, List.map_cons]
      exact (delivers_one hlib h battle).append ih
  | relay c data =>
    simp only [rawTo, sentTo]
    split
    · exact .snapshot h .nil
    · exact .nil
  | logStat stat time => exact .nil
  | closeConnection c => exact .nil

theorem delivers_outs (hlib : lib.Faithful) {out : List Out} (h : ∀ o ∈ out, SendsWell lib o) (conn : Conn)
    (battle : ℕ) :
    Delivers lib ((out.flatMap (rawTo lib conn)).map (⟨·, battle⟩))
      ((out.flatMap (sentTo conn)).map (⟨·, battle⟩)) := by
  induction out with
  | nil => exact .nil
  | cons o out ih =>
    rw [List.forall_mem_cons] at h
    rw [List.flatMap_cons, List.flatMap_cons, List.map_append, List.map_append]
    exact (delivers_out hlib h.1 conn battle).append (ih h.2)

/-! ## What the server sends -/

theorem utf8_connectionID {c : ConnectionID} (h : c.toJson.Dumps) : c.Utf8 := by
  have hutf8 : ValidUtf8 c.host ∧ ValidUtf8 c.user := by simpa [ConnectionID.toJson, jsonObj, Json.dumps_obj] using h
  exact hutf8

theorem utf8_member {m : MemberData} (h : m.toJson.Dumps) : m.Utf8 := by
  obtain ⟨hid, hname, hip⟩ : m.connId.toJson.Dumps ∧ ValidUtf8 m.name ∧ ValidUtf8 m.ip := by
    simpa [MemberData.toJson, jsonObj, Json.dumps_obj] using h
  exact ⟨utf8_connectionID hid, hname, hip⟩

/-- A message that dumps goes out whole, if it is not forwarded and an update is of a sane match. -/
theorem writable_of_dumps {msg : ServerMsg} (h : msg.toJson.Dumps) (hupdate : ∀ l d, msg = .dataUpdate l d → d.Sane)
    (hforward : ∀ j, msg ≠ .forwarded j) : msg.Writable := by
  cases msg with
  | helloResp cid =>
    have hcid : cid.toJson.Dumps := by
      have h := Json.dumps_obj.1 h
      simpa using (h (ascii "cid", cid.toJson) (by simp)).2
    exact utf8_connectionID hcid
  | joinReject r => trivial
  | dataUpdate l d =>
    have hl : l.toJson.Dumps := (Json.dumps_obj.1 h (ascii "lobbyData", l.toJson) (by simp)).2
    have hid := (Json.dumps_obj.1 hl (ascii "id", _) (List.mem_cons_self ..)).2
    have hmembers := (Json.dumps_obj.1 hl (ascii "members", .arr (l.members.map MemberData.toJson)) (by simp)).2
    rw [Json.dumps_arr, List.forall_mem_map] at hmembers
    refine ⟨⟨?_, fun m hm => utf8_member (hmembers m hm)⟩, hupdate l d rfl⟩
    simpa [jsonObj, Json.dumps_obj] using hid
  | desyncReport r =>
    exact Json.dumps_str.1 (Json.dumps_obj.1 h (ascii "diff", .str r.diff) (by simp)).2
  | directPeer peer =>
    exact ⟨Json.dumps_str.1 (Json.dumps_obj.1 h (ascii "ip", .str peer.ip) (by simp)).2,
      Json.dumps_str.1 (Json.dumps_obj.1 h (ascii "localIp", .str peer.localIp) (by simp)).2,
      Json.dumps_str.1 (Json.dumps_obj.1 h (ascii "token", .str peer.token) (by simp)).2⟩
  | lobbyAllReady => trivial
  | battleSynced => trivial
  | forwarded j => exact absurd rfl (hforward j)

/-- What a message makes the server send. -/
def Answers (msg : ClientMsg) : Out → Prop
  | .respond _ (.dataUpdate _ _) => False
  | .respond _ (.forwarded _) => ∃ j fwd, msg = .forward j fwd
  | .respond _ _ => True
  | .broadcast _ _ => False
  | .relay _ data => msg = .battleSnapshot data
  | .logStat _ _ => True
  | .closeConnection _ => True

theorem exchange_answers (s : SessionServer) (tick : Tick) (msg : ClientMsg) :
    ∀ o ∈ (s.maybeExchangeDirectEndpoints tick).2, Answers msg o := by
  unfold SessionServer.maybeExchangeDirectEndpoints
  repeat' split
  all_goals simp [Answers]

theorem message_answers (p : Stepping) (m : IncomingMsg) : ∀ o ∈ (handleMessage p m).2, Answers m.msg o := by
  unfold handleMessage
  cases p.server.cidMap.find m.conn with
  | none => cases m.msg <;> simp [Stepping.serve, SessionServer.onHello, Answers]
  | some cid =>
    simp only [handleKnown]
    cases m.msg with
    | forward msg fwd =>
      simp only [Stepping.serve, SessionServer.onForward]
      repeat' split
      all_goals simp [Answers]
    | joinReq request =>
      simp only [Stepping.serve, SessionServer.onJoinRequest]
      repeat' split
      all_goals simp [Answers]
    | desyncReport report =>
      simp only [Stepping.serve, SessionServer.onDesyncReport]
      repeat' split
      · simp
      · simp
      · simp only [List.forall_mem_cons, List.forall_mem_map]
        exact ⟨trivial, fun other _ => trivial⟩
    | directOffer offer =>
      simp only [Stepping.serve, SessionServer.onDirectOffer]
      split
      · exact exchange_answers _ _ _
      · simp
    | reportResults loserSide =>
      simp only [Stepping.serve, SessionServer.onReportResults, SessionServer.handleResults,
        SessionServer.closeMatchClock]
      repeat' split
      all_goals simp_all [Answers]
    | battleSnapshot data =>
      simp only [Stepping.serve, SessionServer.onBattleSnapshot]
      split
      · simp
      · simp only [List.forall_mem_map]
        exact fun other _ => rfl
    | _ => simp [Stepping.serve]

/-- The message goes to the server whole, and nothing of it is cut apart. -/
def Whole (lib : JsonLibrary) : ClientMsg → Prop
  | .joinReq (some request) => ValidUtf8 (SessionServer.storedName request.username)
  | .desyncReport (some report) => ∀ b ∈ report.diff, b < 0x80
  | .battleSnapshot data => IsSnapshot lib data
  | .directOffer _ => False
  | .forward _ _ => False
  | _ => True

def noStats : StatsEnv := ⟨false, [], validUtf8_nil⟩

theorem Whole.text {msg : ClientMsg} (h : Whole lib msg) : msg.TextOk := by
  cases msg with
  | desyncReport report =>
    cases report with
    | none => trivial
    | some report => exact validUtf8_of_ascii h
  | directOffer offer => exact h.elim
  | forward j fwd => exact h.elim
  | _ => trivial

theorem Whole.cuts {m : IncomingMsg} (h : Whole lib m.msg) (p : Stepping) : CutsWhole noStats p m := by
  intro _
  cases hmsg : m.msg with
  | joinReq request =>
    rw [hmsg] at h
    cases request with
    | none => trivial
    | some request => exact fun _ => h
  | desyncReport report =>
    rw [hmsg] at h
    cases report with
    | none => trivial
    | some report => exact fun _ _ _ => validUtf8_of_ascii fun b hb => h b (List.mem_of_mem_take hb)
  | _ => trivial

/-- The server's side of a room in which everything goes out whole. -/
structure CleanServer (s : SessionServer) : Prop where
  seated : s.WellSeated
  text : s.TextOk
  sane : s.matchData.Sane

theorem sendsWell_message {p : Stepping} (h : CleanServer p.server) {m : IncomingMsg} (hwhole : Whole lib m.msg)
    (hnum : m.messageNumber < 2 ^ 63) :
    CleanServer (handleMessage p m).1.server ∧ ∀ o ∈ (handleMessage p m).2, SendsWell lib o := by
  obtain ⟨htext, hdumps⟩ := text_message h.text hwhole.text (hwhole.cuts p)
  refine ⟨⟨wellSeated_message h.seated m, htext, sane_next (a := .message m) h.seated h.sane hnum⟩, fun o ho => ?_⟩
  have hanswers := message_answers p m o ho
  have ho := hdumps o ho
  cases o with
  | respond c msg =>
    refine writable_of_dumps ho ?_ ?_
    · rintro l d rfl
      exact hanswers.elim
    · rintro j rfl
      obtain ⟨j, fwd, hmsg⟩ := hanswers
      rw [hmsg] at hwhole
      exact hwhole.elim
  | broadcast conns msg => exact hanswers.elim
  | relay c data =>
    have hmsg : m.msg = .battleSnapshot data := hanswers
    rw [hmsg] at hwhole
    exact hwhole
  | logStat stat time => trivial
  | closeConnection c => trivial

/-- What the end of a Step sends: pairings, and broadcasts of its own. -/
def Concludes : Out → Prop
  | .respond _ (.directPeer _) => True
  | .respond _ _ => False
  | .broadcast _ (.forwarded _) => False
  | .broadcast _ _ => True
  | .relay _ _ => False
  | .logStat _ _ => True
  | .closeConnection _ => True

theorem finish_concludes (p : Stepping) (tick : Tick) : ∀ o ∈ (finishStep p tick).2, Concludes o := by
  intro o ho
  rw [finishStep_out] at ho
  simp only [List.mem_append] at ho
  rcases ho with ((ho | ho) | ho) | ho
  · revert o
    unfold SessionServer.maybeExchangeDirectEndpoints
    repeat' split
    all_goals simp [Concludes]
  · rw [sendUpdate_out _ o ho]
    trivial
  · split at ho
    · simp only [SessionServer.sendAllReady, List.mem_append, List.mem_cons, List.not_mem_nil, or_false] at ho
      rcases ho with ((rfl | rfl) | ho) | rfl
      · trivial
      · trivial
      · split at ho
        · rw [List.mem_singleton.1 ho]
          trivial
        · cases ho
      · trivial
    · cases ho
  · split at ho
    · rw [List.mem_singleton.1 ho]
      trivial
    · cases ho

theorem sendsWell_finish (lib : JsonLibrary) {p : Stepping} (h : CleanServer p.server) (tick : Tick) :
    CleanServer (finishStep p tick).1.server ∧ ∀ o ∈ (finishStep p tick).2, SendsWell lib o := by
  obtain ⟨htext, hdumps⟩ := text_finish h.text noStats tick
  have hsane : (finishStep p tick).1.server.matchData.Sane := sane_next (a := .endStep tick) h.seated h.sane trivial
  refine ⟨⟨wellSeated_finish h.seated tick, htext, hsane⟩, fun o ho => ?_⟩
  have hends := finish_concludes p tick o ho
  have hdump := hdumps o ho
  cases o with
  | respond c msg =>
    cases msg with
    | directPeer peer => exact writable_of_dumps hdump nofun nofun
    | _ => exact hends.elim
  | broadcast conns msg =>
    refine writable_of_dumps hdump ?_ fun j hj => by rwa [hj] at hends
    rintro l d rfl
    obtain ⟨s, -, -, hmatch, hu⟩ := sent_update (a := .endStep tick) ho rfl
    have hd : d = s.matchData := congrArg Prod.snd hu
    rw [hd, hmatch]
    exact hsane
  | relay c data => exact hends.elim
  | logStat stat time => trivial
  | closeConnection c => trivial

/-! ## What the clients send -/

/-- The texts of a client are valid, and its name also as the server stores it. With another name the join
request is never written, or the stored name is cut inside a character. -/
structure CleanClient (c : SessionClient) : Prop where
  hash : ValidUtf8 c.sidecarHash
  name : ValidUtf8 c.name
  secret : ValidUtf8 c.joinSecret
  stored : ValidUtf8 (SessionServer.storedName c.name)

theorem CleanClient.same {c c' : SessionClient} (h : CleanClient c) (hhash : c'.sidecarHash = c.sidecarHash)
    (hname : c'.name = c.name) (hsecret : c'.joinSecret = c.joinSecret) : CleanClient c' :=
  ⟨hhash ▸ h.hash, hname ▸ h.name, hsecret ▸ h.secret, hname ▸ h.stored⟩

/-- What a client of the room does, where its snapshots are snapshots and its desyncs are told in ASCII. -/
def Plays (lib : JsonLibrary) : Doing → Prop
  | .snapshot data => IsSnapshot lib data
  | .desync r => ∀ b ∈ r.diff, b < 0x80
  | _ => True

/-- The message is written, and comes whole. -/
def Sends (lib : JsonLibrary) (u : Up) : Prop := Writes lib u.msg ∧ Whole lib u.msg

theorem sendAll_sends {c : SessionClient} {msgs : List ClientMsg} (h : ∀ msg ∈ msgs, Writes lib msg ∧ Whole lib msg) :
    ∀ u ∈ (c.sendAll msgs).2, Sends lib u := by
  intro u hu
  refine h u.msg ?_
  rw [← c.sendAll_msgs msgs]
  exact List.mem_map_of_mem hu

theorem clean_perform {c : SessionClient} (h : CleanClient c) {d : Doing} (hd : Plays lib d) :
    CleanClient (c.perform d).1 ∧ ∀ u ∈ (c.perform d).2.1, Sends lib u := by
  have hsame : CleanClient c ∧ ∀ u ∈ ([] : List Up), Sends lib u := ⟨h, List.forall_mem_nil _⟩
  unfold SessionClient.perform
  split
  · cases d with
    | draw =>
      simp only [SessionClient.doing, SessionClient.draw]
      split
      · exact ⟨h.same rfl rfl rfl, List.forall_mem_nil _⟩
      · split
        · refine ⟨h.same rfl rfl rfl, sendAll_sends ?_⟩
          split
          · exact List.forall_mem_singleton.2 ⟨⟨rfl, trivial⟩, trivial⟩
          · exact List.forall_mem_nil _
        · exact hsame
    | ready o =>
      simp only [SessionClient.doing, SessionClient.sendReady]
      split
      · split
        · exact hsame
        · refine ⟨h.same rfl rfl rfl, sendAll_sends ?_⟩
          simp only [List.forall_mem_append, List.forall_mem_singleton]
          refine ⟨⟨⟨⟨rfl, trivial⟩, trivial⟩, ?_⟩, ⟨rfl, trivial⟩, trivial⟩
          split
          · simp only [List.forall_mem_cons]
            exact ⟨⟨⟨rfl, trivial⟩, trivial⟩, ⟨⟨rfl, trivial⟩, trivial⟩, List.forall_mem_nil _⟩
          · exact List.forall_mem_nil _
      · exact hsame
    | takeReadyBack =>
      simp only [SessionClient.doing, SessionClient.takeReadyBack]
      split
      · split
        · exact ⟨h.same rfl rfl rfl, sendAll_sends (List.forall_mem_singleton.2 ⟨⟨rfl, trivial⟩, trivial⟩)⟩
        · exact hsame
      · exact hsame
    | matchResult winnerSide =>
      simp only [SessionClient.doing]
      split
      · exact hsame
      · exact ⟨h.same rfl rfl rfl, List.forall_mem_nil _⟩
    | hasInitialized =>
      simp only [SessionClient.doing, SessionClient.hasInitialized]
      split
      · exact hsame
      · split
        · exact hsame
        · exact ⟨h.same rfl rfl rfl, sendAll_sends (List.forall_mem_singleton.2 ⟨⟨rfl, trivial⟩, trivial⟩)⟩
    | exitForeground =>
      simp only [SessionClient.doing]
      split
      · exact hsame
      · exact ⟨h.same rfl rfl rfl, List.forall_mem_nil _⟩
    | snapshot data =>
      simp only [SessionClient.doing]
      split
      · exact hsame
      · exact ⟨h.same rfl rfl rfl, sendAll_sends (List.forall_mem_singleton.2 ⟨hd, hd⟩)⟩
    | desync r =>
      have hdiff : ∀ b ∈ r.diff.take 700, b < 0x80 := fun b hb => hd b (List.mem_of_mem_take hb)
      simp only [SessionClient.doing, SessionClient.handleDesync, SessionClient.reportDesync]
      split
      · exact hsame
      · split
        · split
          · exact ⟨h.same rfl rfl rfl, List.forall_mem_nil _⟩
          · exact ⟨h.same rfl rfl rfl,
              sendAll_sends (List.forall_mem_singleton.2 ⟨⟨rfl, validUtf8_of_ascii hdiff⟩, hdiff⟩)⟩
        · exact hsame
  · exact hsame

theorem clean_receive (lib : JsonLibrary) {c : SessionClient} (h : CleanClient c) (d : Down) :
    CleanClient (c.receive d).1 ∧ ∀ u ∈ (c.receive d).2.1, Sends lib u := by
  unfold SessionClient.receive
  cases d.msg with
  | helloResp cid =>
    exact ⟨h.same rfl rfl rfl,
      sendAll_sends (List.forall_mem_singleton.2 ⟨⟨rfl, h.hash, h.name, h.secret⟩, h.stored⟩)⟩
  | dataUpdate l d =>
    refine ⟨?_, List.forall_mem_nil _⟩
    simp only [SessionClient.onDataUpdate]
    repeat' split
    all_goals exact h.same rfl rfl rfl
  | lobbyAllReady =>
    refine ⟨?_, List.forall_mem_nil _⟩
    simp only [SessionClient.onReady]
    split
    · exact h.same rfl rfl rfl
    · exact h
  | desyncReport r =>
    dsimp only
    split
    · exact ⟨h, List.forall_mem_nil _⟩
    · exact ⟨h.same rfl rfl rfl, List.forall_mem_nil _⟩
  | joinReject r => exact ⟨h.same rfl rfl rfl, List.forall_mem_nil _⟩
  | battleSynced => exact ⟨h.same rfl rfl rfl, List.forall_mem_nil _⟩
  | directPeer peer => exact ⟨h, List.forall_mem_nil _⟩
  | forwarded j => exact ⟨h, List.forall_mem_nil _⟩

/-! ## One room and the other -/

/-- A room in which everything that is said goes over whole. -/
structure Clean (lib : JsonLibrary) (r : Room) : Prop where
  server : CleanServer r.server.server
  clients : ∀ i, CleanClient (r.clients.get i)
  up : ∀ i, ∀ u ∈ r.up.get i, Whole lib u.msg

/-- A snapshot that is sent is one, what is said of a desync is plain text, and the number of a message that
is handled fits its type. -/
def Sound (lib : JsonLibrary) (w : WiredRoom) : Move → Prop
  | .serve i _ _ => ∀ x ∈ (w.up.get i).head?, x.number < 2 ^ 63
  | .perform _ d => Plays lib d
  | _ => True

theorem carries_post (hlib : lib.Faithful) {w : WiredRoom} {r : Room} (h : Carries lib w r) {p : Stepping}
    {out : List Out} (hout : ∀ o ∈ out, SendsWell lib o) (battle : ℕ) :
    Carries lib (w.post lib p out battle) (r.post p out battle) where
  server := rfl
  calls := h.calls
  clients := h.clients
  up := h.up
  down i := by
    have hconn : (w.clients.get i).conn = (r.clients.get i).conn := by
      rw [h.clients i]
      rfl
    rw [Room.post_down, WiredRoom.post, Sides.get_of, hconn]
    exact (h.down i).append (delivers_outs hlib hout _ battle)

theorem carries_put (hlib : lib.Faithful) {w : WiredRoom} {r : Room} (h : Carries lib w r) (i : Side)
    (c : SessionClient) {sent : List Up} (hsent : ∀ u ∈ sent, Sends lib u) :
    Carries lib (w.put lib i c.unflagged sent) (r.put i c sent) where
  server := h.server
  calls := h.calls
  clients j := by
    rcases Side.eq_or_other i j with rfl | rfl
    · rw [Room.put_client]
      exact Sides.get_set_self ..
    · rw [Room.put_client_other]
      exact (Sides.get_set_other ..).trans (h.clients i.other)
  up j := by
    have harrives := sent_arrives hlib fun u hu => (hsent u hu).1
    rcases Side.eq_or_other i j with rfl | rfl
    · rw [Room.put_up, WiredRoom.put, Sides.get_set_self]
      exact List.rel_append (h.up _) harrives
    · rw [Room.put_up_other, WiredRoom.put, Sides.get_set_other]
      exact h.up i.other
  down := h.down

theorem clean_put {r : Room} (h : Clean lib r) (i : Side) {c : SessionClient} (hc : CleanClient c) {sent : List Up}
    (hsent : ∀ u ∈ sent, Sends lib u) : Clean lib (r.put i c sent) where
  server := h.server
  clients j := by
    rcases Side.eq_or_other i j with rfl | rfl
    · rwa [Room.put_client]
    · rw [Room.put_client_other]
      exact h.clients i.other
  up j u hu := by
    rcases Room.mem_up_put hu with hu | hu
    · exact h.up j u hu
    · exact (hsent u hu).2

theorem step_serve (hlib : lib.Faithful) {w : WiredRoom} {r : Room} (h : Carries lib w r) (hclean : Clean lib r)
    (i : Side) (peerAddr : PeerAddr) (tick : Tick) (hnum : ∀ x ∈ (w.up.get i).head?, x.number < 2 ^ 63) :
    Carries lib (w.serve lib i peerAddr tick).1 (r.serve i peerAddr tick).1 ∧
      Clean lib (r.serve i peerAddr tick).1 ∧ (w.serve lib i peerAddr tick).2 = (r.serve i peerAddr tick).2 := by
  have hup := h.up i
  cases hr : r.up.get i with
  | nil =>
    rw [hr] at hup
    have hw : w.up.get i = [] := List.forall₂_nil_right_iff.1 hup
    rw [Room.serve_nil hr, WiredRoom.serve, hw]
    exact ⟨h, hclean, rfl⟩
  | cons u rest =>
    rw [hr] at hup
    obtain ⟨x, xs, hreads, hrest, hw⟩ := List.forall₂_cons_right_iff.1 hup
    have hincoming : w.incoming lib i x peerAddr tick = r.incoming i u peerAddr tick := by
      rw [WiredRoom.incoming, Room.incoming, h.clients i, hreads.msg, hreads.number]
      rfl
    have hwhole : Whole lib u.msg := hclean.up i u (hr ▸ List.mem_cons_self)
    have hfits : u.number < 2 ^ 63 := by
      rw [← hreads.number]
      exact hnum x (by rw [hw]; rfl)
    have htaken : Carries lib { w with up := w.up.set i xs } { r with up := r.up.set i rest } :=
      { h with
        up := fun j => by
          rcases Side.eq_or_other i j with rfl | rfl
          · rw [Sides.get_set_self, Sides.get_set_self]
            exact hrest
          · rw [Sides.get_set_other, Sides.get_set_other]
            exact h.up i.other }
    obtain ⟨hserver, hout⟩ := sendsWell_message (m := r.incoming i u peerAddr tick) hclean.server hwhole hfits
    rw [Room.serve_cons hr, WiredRoom.serve, hw]
    simp only [hincoming, h.server, hreads.battle]
    exact ⟨carries_post hlib htaken hout u.battle,
      ⟨hserver, hclean.clients, fun j v hv => hclean.up j v (Room.mem_up_taken hr hv)⟩, trivial⟩

theorem step_endStep (hlib : lib.Faithful) {w : WiredRoom} {r : Room} (h : Carries lib w r) (hclean : Clean lib r)
    (tick : Tick) :
    Carries lib (w.endStep lib tick).1 (r.endStep tick).1 ∧ Clean lib (r.endStep tick).1 ∧
      (w.endStep lib tick).2 = (r.endStep tick).2 := by
  obtain ⟨hserver, hout⟩ := sendsWell_finish lib hclean.server tick
  have hcalls (calls : ℕ) : Carries lib { w with calls } { r with calls } := { h with calls := rfl }
  simp only [WiredRoom.endStep, Room.endStep, h.server, h.calls]
  exact ⟨carries_post hlib (hcalls _) hout _, ⟨hserver, hclean.clients, hclean.up⟩, trivial⟩

theorem step_perform (hlib : lib.Faithful) {w : WiredRoom} {r : Room} (h : Carries lib w r) (hclean : Clean lib r)
    (i : Side) {d : Doing} (hd : Plays lib d) :
    Carries lib (w.perform lib i d).1 (r.perform i d).1 ∧ Clean lib (r.perform i d).1 ∧
      (w.perform lib i d).2 = (r.perform i d).2 := by
  obtain ⟨hc, hsent⟩ := clean_perform (hclean.clients i) hd
  simp only [WiredRoom.perform, Room.perform, h.clients i, SessionClient.perform_unflagged]
  exact ⟨carries_put hlib h i _ hsent, clean_put hclean i hc hsent, trivial⟩

/-- A message that is delivered is handled as it was sent, and a snapshot as nothing. -/
theorem step_deliver (hlib : lib.Faithful) {w : WiredRoom} {r : Room} (h : Carries lib w r) (hclean : Clean lib r)
    (i : Side) :
    (Carries lib (w.deliver lib i).1 (r.deliver i).1 ∧ Clean lib (r.deliver i).1 ∧
        (w.deliver lib i).2 = (r.deliver i).2) ∨
      (Carries lib (w.deliver lib i).1 r ∧ (w.deliver lib i).2 = []) := by
  have hdown := h.down i
  have htaken {xs : List RawDown} {ds : List Down} (hrest : Delivers lib xs ds) :
      Carries lib { w with down := w.down.set i xs } { r with down := r.down.set i ds } :=
    { h with
      down := fun j => by
        rcases Side.eq_or_other i j with rfl | rfl
        · rw [Sides.get_set_self, Sides.get_set_self]
          exact hrest
        · rw [Sides.get_set_other, Sides.get_set_other]
          exact h.down i.other }
  generalize hw : w.down.get i = xs at hdown
  generalize hr : r.down.get i = ds at hdown
  cases hdown with
  | nil =>
    rw [Room.deliver_nil hr, WiredRoom.deliver, hw]
    exact .inl ⟨h, hclean, rfl⟩
  | @message x d xs ds hmsg hparse hbattle hrest =>
    have hreceive : (w.clients.get i).receiveBytes lib.parse x.data x.battle =
        (((r.clients.get i).receive d).1.unflagged, ((r.clients.get i).receive d).2) := by
      rw [SessionClient.receiveBytes, hparse, hbattle, h.clients i]
      exact (SessionClient.receiveJson_toJson _ hmsg _).trans (SessionClient.receive_unflagged _ d.msg d.battle)
    have hbattle : (w.clients.get i).battle = (r.clients.get i).battle := by
      rw [h.clients i]
      rfl
    obtain ⟨hc, hsent⟩ := clean_receive lib (hclean.clients i) d
    have htaken := htaken hrest
    rw [WiredRoom.deliver, hw, Room.deliver, hr]
    simp only [hreceive, hbattle]
    exact .inl ⟨carries_put hlib htaken i _ hsent,
      clean_put (r := { r with down := r.down.set i ds }) ⟨hclean.server, hclean.clients, hclean.up⟩ i hc hsent,
      trivial⟩
  | @snapshot x xs ds hread hrest =>
    have hskipped : Carries lib { w with down := w.down.set i xs } r :=
      { h with
        down := fun j => by
          rcases Side.eq_or_other i j with rfl | rfl
          · rw [Sides.get_set_self, hr]
            exact hrest
          · rw [Sides.get_set_other]
            exact h.down i.other }
    have hput : ({ w with down := w.down.set i xs } : WiredRoom).put lib i (w.clients.get i) [] =
        { w with down := w.down.set i xs } := by
      have hclients : w.clients.set i (w.clients.get i) = w.clients := Sides.set_eq_self.2 rfl
      have hup : w.up.set i (w.up.get i ++ []) = w.up := Sides.set_eq_self.2 (List.append_nil _).symm
      rw [WiredRoom.put, List.filterMap_nil]
      simp only [hclients, hup]
    rw [WiredRoom.deliver, hw]
    simp only [receiveBytes_snapshot hread, hput]
    exact .inr ⟨hskipped, rfl⟩

/-- Whatever the two clients and the server do over bytes, they do over messages, as long as every text is
valid and stays so when it is cut: a run of the room with bytes on its channels is, snapshots that are
passed on apart, a run of the room, with the same outputs and told the same, and in the end the server is
the same, the clients are the same but for flags they do not read, and the same messages are on their way. -/
theorem wired_refines (hlib : lib.Faithful) {w : WiredRoom} {r : Room} (h : Carries lib w r) (hclean : Clean lib r)
    {ms : List Move} (hms : (wiredRoom lib).Meets (fun _ => Sound lib) w [] ms) :
    ∃ ms', ms'.Sublist ms ∧ Carries lib ((wiredRoom lib).run w ms) (room.run r ms') ∧
      (wiredRoom lib).outs w ms = room.outs r ms' := by
  have hstep : ∀ w r m, Carries lib w r ∧ Clean lib r → Sound lib w m →
      ((Carries lib ((wiredRoom lib).next w m).1 (room.next r m).1 ∧ Clean lib (room.next r m).1) ∧
          ((wiredRoom lib).next w m).2 = (room.next r m).2) ∨
        ((Carries lib ((wiredRoom lib).next w m).1 r ∧ Clean lib r) ∧ ((wiredRoom lib).next w m).2 = []) := by
    rintro w r m ⟨h, hclean⟩ hm
    cases m with
    | serve i peerAddr tick =>
      obtain ⟨hcarries, hclean, hout⟩ := step_serve hlib h hclean i peerAddr tick hm
      exact .inl ⟨⟨hcarries, hclean⟩, hout⟩
    | endStep tick =>
      obtain ⟨hcarries, hclean, hout⟩ := step_endStep hlib h hclean tick
      exact .inl ⟨⟨hcarries, hclean⟩, hout⟩
    | deliver i =>
      rcases step_deliver hlib h hclean i with ⟨hcarries, hclean, hout⟩ | ⟨hcarries, hout⟩
      · exact .inl ⟨⟨hcarries, hclean⟩, hout⟩
      · exact .inr ⟨⟨hcarries, hclean⟩, hout⟩
    | perform i d =>
      obtain ⟨hcarries, hclean, hout⟩ := step_perform hlib h hclean i hm
      exact .inl ⟨⟨hcarries, hclean⟩, hout⟩
  obtain ⟨ms', hsub, ⟨hend, -⟩, houts⟩ :=
    (wiredRoom lib).refines (fun w r => Carries lib w r ∧ Clean lib r) hstep ⟨h, hclean⟩ hms
  exact ⟨ms', hsub, hend, houts⟩

end

/-! ## A library that is faithful -/

/-- The texts of `Json.text`. -/
def textLibrary : JsonLibrary where
  dump j := if j.Dumps then some j.text else none
  parse := Json.read

theorem textLibrary_faithful : textLibrary.Faithful := fun _ h => ⟨_, if_pos h.dumps, Json.read_text h⟩

namespace Sample

/-- The new lobby, with the greetings as they are written. -/
def wiredLobby : WiredRoom where
  server := lobby.server
  clients := .of fun i => (lobby.clients.get i).unflagged
  up := .of fun i => (lobby.up.get i).filterMap (rawUp textLibrary)
  down := ⟨[], []⟩
  calls := 0

theorem carries_lobby : Carries textLibrary wiredLobby lobby where
  server := rfl
  calls := rfl
  clients i := Sides.get_of ..
  up i := by
    have hhello : ∀ u ∈ lobby.up.get i, Writes textLibrary u.msg := by
      cases i using Side.cases <;> exact List.forall_mem_singleton.2 ⟨rfl, trivial⟩
    rw [wiredLobby, Sides.get_of]
    exact sent_arrives textLibrary_faithful hhello
  down i := by cases i using Side.cases <;> exact .nil

theorem clean_lobby : Clean textLibrary lobby where
  server := ⟨wellSeated_lobby [], ⟨by decide +kernel, by decide +kernel, nofun, nofun⟩, .clear⟩
  clients i := by
    cases i using Side.cases <;>
      exact ⟨by decide +kernel, by decide +kernel, by decide +kernel, by decide +kernel⟩
  up i := by cases i using Side.cases <;> exact List.forall_mem_singleton.2 trivial

theorem sound_serve {w : WiredRoom} {i : Side} (h : ∀ x ∈ (w.up.get i).head?, x.number < 2 ^ 63) :
    Sound textLibrary w (serve i) := h

/-- Two clients join over the text of JSON. -/
theorem wired_refines_joining : ∃ ms', ms'.Sublist joining ∧
    Carries textLibrary ((wiredRoom textLibrary).run wiredLobby joining) (room.run lobby ms') ∧
      (wiredRoom textLibrary).outs wiredLobby joining = room.outs lobby ms' :=
  wired_refines textLibrary_faithful carries_lobby clean_lobby
    ⟨sound_serve (by decide +kernel), trivial, sound_serve (by decide +kernel), sound_serve (by decide +kernel),
      trivial, sound_serve (by decide +kernel), trivial, trivial, trivial, trivial⟩

end Sample

end Sf4e.Netplay
