import Sf4e.Netplay.SessionClient
import Sf4e.Session.Runs
/-!
# Two clients and the server

The system the session code is part of: two PCs, the session server, and a
FIFO channel each way between the server and each PC. A move of the room is one
message handled at one end, the end of a Step, or something that happens on a
PC.
-/
open Sf4e.Lib Sf4e.Session

namespace Sf4e.Netplay

/-- `calls` counts the LobbyAllReady messages broadcast, which no code reads. -/
structure Room where
  server : Stepping
  clients : Sides SessionClient
  up : Sides (List Up)
  down : Sides (List Down)
  calls : Nat

inductive Move where
  | serve (i : Side) (peerAddr : PeerAddr) (tick : Tick)
  | endStep (tick : Tick)
  | deliver (i : Side)
  | perform (i : Side) (d : Doing)

/-- What can be seen of a move: the server's outputs, and what a PC is told. -/
inductive Sight where
  | server (o : Out)
  | told (i : Side) (t : Told)

/-! ## Channels -/

/-- What an output puts into the channel of `conn`. -/
def sentTo (conn : Conn) : Out → List ServerMsg
  | .respond c msg => if c = conn then [msg] else []
  | .broadcast conns msg => (conns.filter (· = conn)).map fun _ => msg
  | .relay _ _ => []
  | .logStat _ _ => []
  | .closeConnection _ => []

namespace Room

/-- The server's outputs go out to the clients. -/
def post (r : Room) (p : Stepping) (out : List Out) (battle : Nat) : Room :=
  { r with
    server := p
    down := .of fun i =>
      r.down.get i ++ (out.flatMap (sentTo (r.clients.get i).conn)).map (⟨·, battle⟩) }

/-- A client changes, and sends. -/
def put (r : Room) (i : Side) (c : SessionClient) (sent : List Up) : Room :=
  { r with clients := r.clients.set i c, up := r.up.set i (r.up.get i ++ sent) }

/-- The oldest message of client `i`, as the server gets it. -/
def incoming (r : Room) (i : Side) (u : Up) (peerAddr : PeerAddr) (tick : Tick) : IncomingMsg :=
  ⟨(r.clients.get i).conn, u.msg, u.number, peerAddr, tick⟩

def serve (r : Room) (i : Side) (peerAddr : PeerAddr) (tick : Tick) : Room × List Sight :=
  match r.up.get i with
  | [] => (r, [])
  | u :: rest =>
    let (p, out) := handleMessage r.server (r.incoming i u peerAddr tick)
    ({ r with up := r.up.set i rest }.post p out u.battle, out.map .server)

def endStep (r : Room) (tick : Tick) : Room × List Sight :=
  let (p, out) := finishStep r.server tick
  let calls := if r.server.bSendLobbyAllReady then r.calls + 1 else r.calls
  ({ r with calls }.post p out calls, out.map .server)

def deliver (r : Room) (i : Side) : Room × List Sight :=
  match r.down.get i with
  | [] => (r, [])
  | d :: rest =>
    let c := r.clients.get i
    let (c', sent, leave) := c.receive d
    ({ r with down := r.down.set i rest }.put i c' sent, if leave then [.told i (.leave c.battle)] else [])

def perform (r : Room) (i : Side) (d : Doing) : Room × List Sight :=
  let (c, sent, told) := (r.clients.get i).perform d
  (r.put i c sent, told.map (.told i))

end Room

/-- The two clients and the server. -/
def room : Machine Room Move Sight where
  next r
    | .serve i peerAddr tick => r.serve i peerAddr tick
    | .endStep tick => r.endStep tick
    | .deliver i => r.deliver i
    | .perform i d => r.perform i d

/-- The steps of the room so far, newest first. -/
abbrev Story := List (Taken Room Move Sight)

namespace Room

@[simp] theorem post_server (r : Room) (p : Stepping) (out : List Out) (battle : Nat) :
    (r.post p out battle).server = p := rfl

@[simp] theorem post_clients (r : Room) (p : Stepping) (out : List Out) (battle : Nat) :
    (r.post p out battle).clients = r.clients := rfl

@[simp] theorem post_up (r : Room) (p : Stepping) (out : List Out) (battle : Nat) :
    (r.post p out battle).up = r.up := rfl

@[simp] theorem post_down (r : Room) (p : Stepping) (out : List Out) (battle : Nat) (i : Side) :
    (r.post p out battle).down.get i =
      r.down.get i ++ (out.flatMap (sentTo (r.clients.get i).conn)).map (⟨·, battle⟩) := by
  simp [post]

theorem serve_nil {r : Room} {i : Side} (hu : r.up.get i = []) (peerAddr : PeerAddr) (tick : Tick) :
    r.serve i peerAddr tick = (r, []) := by
  simp only [serve, hu]

theorem serve_cons {r : Room} {i : Side} {u : Up} {rest : List Up} (hu : r.up.get i = u :: rest)
    (peerAddr : PeerAddr) (tick : Tick) :
    r.serve i peerAddr tick =
      ({ r with up := r.up.set i rest }.post (handleMessage r.server (r.incoming i u peerAddr tick)).1
        (handleMessage r.server (r.incoming i u peerAddr tick)).2 u.battle,
        (handleMessage r.server (r.incoming i u peerAddr tick)).2.map .server) := by
  simp only [serve, hu]

theorem deliver_nil {r : Room} {i : Side} (hd : r.down.get i = []) : r.deliver i = (r, []) := by
  simp only [deliver, hd]

theorem deliver_cons {r : Room} {i : Side} {d : Down} {rest : List Down} (hd : r.down.get i = d :: rest) :
    (r.deliver i).1 = { r with down := r.down.set i rest }.put i ((r.clients.get i).receive d).1
      ((r.clients.get i).receive d).2.1 := by
  simp only [deliver, hd]

theorem perform_put (r : Room) (i : Side) (d : Doing) :
    (r.perform i d).1 = r.put i ((r.clients.get i).perform d).1 ((r.clients.get i).perform d).2.1 := rfl

@[simp] theorem put_server (r : Room) (i : Side) (c : SessionClient) (sent : List Up) :
    (r.put i c sent).server = r.server := rfl

@[simp] theorem put_down (r : Room) (i : Side) (c : SessionClient) (sent : List Up) :
    (r.put i c sent).down = r.down := rfl

@[simp] theorem put_client (r : Room) (i : Side) (c : SessionClient) (sent : List Up) :
    (r.put i c sent).clients.get i = c := by
  simp [put]

@[simp] theorem put_client_other (r : Room) (i : Side) (c : SessionClient) (sent : List Up) :
    (r.put i c sent).clients.get i.other = r.clients.get i.other := by
  simp [put]

theorem badge_put {r : Room} {i : Side} {c : SessionClient} (hc : c.badge = (r.clients.get i).badge) (sent : List Up)
    (j : Side) : ((r.put i c sent).clients.get j).badge = (r.clients.get j).badge := by
  rcases Side.eq_or_other i j with rfl | rfl
  · rw [put_client]
    exact hc
  · rw [put_client_other]

/-- A client gets its message, and the server does not notice. -/
theorem server_deliver (r : Room) (i : Side) : (r.deliver i).1.server = r.server := by
  cases hd : r.down.get i with
  | nil => rw [deliver_nil hd]
  | cons d rest =>
    rw [deliver_cons hd]
    rfl

@[simp] theorem put_up (r : Room) (i : Side) (c : SessionClient) (sent : List Up) :
    (r.put i c sent).up.get i = r.up.get i ++ sent := by
  simp [put]

@[simp] theorem put_up_other (r : Room) (i : Side) (c : SessionClient) (sent : List Up) :
    (r.put i c sent).up.get i.other = r.up.get i.other := by
  simp [put]

/-- What is under way to the server once a message has been taken was under way before. -/
theorem mem_up_taken {r : Room} {i j : Side} {u v : Up} {rest : List Up} (hu : r.up.get i = u :: rest) {p : Stepping}
    {out : List Out} {battle : Nat} (hv : v ∈ (({ r with up := r.up.set i rest } : Room).post p out battle).up.get j) :
    v ∈ r.up.get j := by
  rcases Side.eq_or_other i j with rfl | rfl
  · rw [post_up, Sides.get_set_self] at hv
    exact hu ▸ List.mem_cons_of_mem _ hv
  · rw [post_up, Sides.get_set_other] at hv
    exact hv

theorem mem_up_put {r : Room} {i j : Side} {c : SessionClient} {sent : List Up} {v : Up}
    (hv : v ∈ (r.put i c sent).up.get j) : v ∈ r.up.get j ∨ v ∈ sent := by
  rcases Side.eq_or_other i j with rfl | rfl
  · rw [put_up] at hv
    exact List.mem_append.1 hv
  · rw [put_up_other] at hv
    exact .inl hv

end Room

/-! ## A player's message at the table -/

/-- The messages a client sends once it has joined. -/
def FromPlayer : ClientMsg → Prop
  | .setChara (some _) => True
  | .setEnv (some _) => True
  | .setStage (some _) => True
  | .lobbyReady (some _) => True
  | .reportResults (some _) => True
  | .desyncReport (some _) => True
  | .battleLoaded => True
  | .battleSnapshot _ => True
  | _ => False

theorem fromPlayer_perform (c : SessionClient) (d : Doing) : ∀ u ∈ (c.perform d).2.1, FromPlayer u.msg := by
  have hall : ∀ (c : SessionClient) (msgs : List ClientMsg), (∀ msg ∈ msgs, FromPlayer msg) →
      ∀ u ∈ (c.sendAll msgs).2, FromPlayer u.msg := by
    intro c msgs hmsgs u hu
    refine hmsgs u.msg ?_
    rw [← c.sendAll_msgs msgs]
    exact List.mem_map_of_mem hu
  unfold SessionClient.perform
  split
  · cases d <;>
      simp only [SessionClient.doing, SessionClient.draw, SessionClient.sendReady, SessionClient.takeReadyBack,
        SessionClient.hasInitialized, SessionClient.handleDesync, SessionClient.reportDesync] <;>
      (repeat' split) <;>
      first
      | exact hall _ _ (by simp [FromPlayer])
      | simp
  · simp

/-- The table after a message from the player in seat `side`, known as `cid`. -/
def afterPlayer (t : Table) (side : Side) (cid : ConnectionID) (m : IncomingMsg) : Table :=
  match m.msg with
  | .setChara (some chara) => if charaConditionsValid chara then t.pick side cid chara else t
  | .setEnv (some rngSeed) => if side = 0 then t.setSeed rngSeed else t
  | .setStage (some stageID) => if side = 0 ∧ stageIDValid stageID.toInt = true then t.setStage stageID.toInt else t
  | .lobbyReady (some request) =>
    if request.ready then t.ready side m.messageNumber request
    else if t.matchData.isAllReady then t else t.unready side
  | .reportResults (some loser) => t.result loser.toInt
  | .battleLoaded => t.load m.conn
  | _ => t

theorem table_player {p : Stepping} (hw : p.server.WellSeated) {m : IncomingMsg} {cid : ConnectionID}
    (hcid : p.server.cidMap.find m.conn = some cid) {side : Side} {e : SessionMember}
    (hside : p.server.sideOf m.conn = some (side, e)) (hid : e.data.connId = cid) (hfrom : FromPlayer m.msg) :
    (handleMessage p m).1.table = afterPlayer p.table side cid m := by
  have heff := effect_message hw m
  generalize (handleMessage p m).1.table = T at heff
  cases heff with
  | idle hidle =>
    have hidle := hidle.resolve_left (by simp [hcid])
    have hne : p.server.sideOf m.conn ≠ none := by simp [hside]
    have hkeep : ∀ e', p.server.sideOf m.conn = some (0, e') ↔ side = 0 ∧ e = e' := by
      intro e'
      rw [hside, Option.some.injEq, Prod.mk.injEq]
    unfold afterPlayer
    split
    · rename_i chara hmsg
      rw [hmsg] at hidle
      simp [hidle.resolve_left hne]
    · rename_i rngSeed hmsg
      rw [hmsg] at hidle
      rw [if_neg fun h0 => hidle e ((hkeep e).2 ⟨h0, rfl⟩)]
    · rename_i stageID hmsg
      rw [hmsg] at hidle
      refine (if_neg fun h0 => ?_).symm
      rcases hidle with hidle | hidle
      · exact hidle e ((hkeep e).2 ⟨h0.1, rfl⟩)
      · rw [hidle] at h0
        cases h0.2
    · rename_i request hmsg
      rw [hmsg] at hidle
      obtain ⟨hready, hall⟩ := hidle.resolve_left hne
      have hall' : p.table.matchData.isAllReady = true := hall
      simp [hready, hall']
    · rename_i loser hmsg
      rw [hmsg] at hidle
      exact hidle.elim
    · rename_i hmsg
      rw [hmsg] at hidle
      exact hidle.elim
    · rfl
  | sit _ hmsg _ _ => simp [hmsg, FromPlayer] at hfrom
  | pick _ hmsg hside' hvalid =>
    rw [hside] at hside'
    cases hside'
    simp [afterPlayer, hmsg, hvalid, hid]
  | seed _ hmsg hside' =>
    rw [hside] at hside'
    cases hside'
    simp [afterPlayer, hmsg]
  | stage _ hmsg hside' hvalid =>
    rw [hside] at hside'
    cases hside'
    simp [afterPlayer, hmsg, hvalid]
  | load _ hmsg => simp [afterPlayer, hmsg]
  | ready _ hmsg hside' hready =>
    rw [hside] at hside'
    cases hside'
    simp [afterPlayer, hmsg, hready]
  | unready _ hmsg hside' hready hopen =>
    rw [hside] at hside'
    cases hside'
    have hopen' : p.table.matchData.isAllReady = false := hopen
    simp [afterPlayer, hmsg, hready, hopen']
  | result _ hmsg => simp [afterPlayer, hmsg]

/-! ## What the server sends -/

/-- The messages a client gets once it has joined. -/
def FromServer : ServerMsg → Prop
  | .helloResp _ => False
  | .joinReject _ => False
  | _ => True

theorem receive_keeps {c : SessionClient} {d : Down} (h : FromServer d.msg) :
    (c.receive d).1.badge = c.badge ∧ (c.receive d).2.1 = [] := by
  unfold SessionClient.receive
  cases hmsg : d.msg with
  | helloResp cid =>
    rw [hmsg] at h
    exact h.elim
  | joinReject result =>
    rw [hmsg] at h
    exact h.elim
  | dataUpdate l m =>
    refine ⟨?_, rfl⟩
    simp only [SessionClient.onDataUpdate]
    repeat' split
    all_goals rfl
  | lobbyAllReady =>
    refine ⟨?_, rfl⟩
    simp only [SessionClient.onReady]
    split <;> rfl
  | desyncReport report =>
    simp only
    split
    · exact ⟨rfl, rfl⟩
    · exact ⟨rfl, rfl⟩
  | _ => exact ⟨rfl, rfl⟩

/-- A player's message is answered with nothing but a desync report, passed on. -/
theorem player_sent {p : Stepping} {m : IncomingMsg} (hfrom : FromPlayer m.msg)
    (hknown : (p.server.cidMap.find m.conn).isSome = true) (conn : Conn) :
    ∀ msg ∈ (handleMessage p m).2.flatMap (sentTo conn),
      ∃ report, m.msg = .desyncReport (some report) ∧
        msg = .desyncReport { report with diff := report.diff.take 512 } := by
  obtain ⟨cid, hcid⟩ := Option.isSome_iff_exists.1 hknown
  intro msg hmsg
  obtain ⟨o, ho, hsent⟩ := List.mem_flatMap.1 hmsg
  unfold handleMessage at ho
  rw [hcid] at ho
  simp only [handleKnown] at ho
  revert hfrom ho
  cases hm : m.msg with
  | desyncReport report =>
    intro hfrom ho
    cases report with
    | none => exact hfrom.elim
    | some report =>
      refine ⟨report, rfl, ?_⟩
      simp only [Stepping.serve, SessionServer.onDesyncReport] at ho
      split at ho
      · cases ho
      · rcases List.mem_cons.1 ho with rfl | ho
        · cases hsent
        · obtain ⟨other, -, rfl⟩ := List.mem_map.1 ho
          simp only [sentTo] at hsent
          split at hsent
          · exact List.mem_singleton.1 hsent
          · cases hsent
  | reportResults loser =>
    intro hfrom ho
    cases loser with
    | none => exact hfrom.elim
    | some loser =>
      simp only [Stepping.serve, SessionServer.onReportResults, SessionServer.handleResults,
        SessionServer.closeMatchClock] at ho
      split at ho
      · rw [List.mem_singleton.1 ho] at hsent
        cases hsent
      · cases ho
  | battleSnapshot data =>
    intro hfrom ho
    simp only [Stepping.serve, SessionServer.onBattleSnapshot] at ho
    split at ho
    · cases ho
    · obtain ⟨other, -, rfl⟩ := List.mem_map.1 ho
      cases hsent
  | forward msg fwd => exact fun hfrom => hfrom.elim
  | joinReq request => exact fun hfrom => hfrom.elim
  | directOffer offer => exact fun hfrom => hfrom.elim
  | _ =>
    intro _ ho
    cases ho

/-- What the end of a Step may send: updates of the table it leaves, and the
calls that were made in the Step. -/
def AtEnd (p : Stepping) : ServerMsg → Prop
  | .dataUpdate l d => Describes (l, d) p.table.finish
  | .lobbyAllReady => p.bSendLobbyAllReady = true
  | .battleSynced => True
  | .directPeer _ => True
  | _ => False

theorem finish_sent {p : Stepping} (hw : p.server.WellSeated) (tick : Tick) (conn : Conn) :
    ∀ msg ∈ (finishStep p tick).2.flatMap (sentTo conn), AtEnd p msg := by
  intro msg hmsg
  obtain ⟨o, ho, hsent⟩ := List.mem_flatMap.1 hmsg
  have hupdate : ∀ u, o.update? = some u → Describes u p.table.finish := fun u => finish_updates hw tick ho
  have hbroadcast : ∀ (s : SessionServer) (m : ServerMsg), o = s.broadcast m → msg = m := by
    intro s m hom
    rw [hom] at hsent
    obtain ⟨_, -, he⟩ := List.mem_map.1 hsent
    exact he.symm
  have hshown : ∀ s : SessionServer, o = s.broadcast s.updateMsg → AtEnd p msg := by
    intro s hos
    rw [hbroadcast s _ hos]
    refine hupdate (_, s.matchData) ?_
    rw [hos]
    rfl
  rw [finishStep_out] at ho
  simp only [List.mem_append] at ho
  rcases ho with ((ho | ho) | ho) | ho
  · have hpeer : ∀ (conn' : Conn) (peer : DirectPeer), o = .respond conn' (.directPeer peer) → AtEnd p msg := by
      intro conn' peer hop
      rw [hop] at hsent
      simp only [sentTo] at hsent
      split at hsent
      · rw [List.mem_singleton.1 hsent]
        trivial
      · cases hsent
    unfold SessionServer.maybeExchangeDirectEndpoints at ho
    repeat' split at ho
    · cases ho
    · cases ho
    · simp only [List.mem_cons, List.not_mem_nil, or_false] at ho
      rcases ho with ho | ho
      · exact hpeer _ _ ho
      · exact hpeer _ _ ho
    · cases ho
  · exact hshown _ (sendUpdate_out _ o ho)
  · split at ho
    · rename_i hcalled
      simp only [SessionServer.sendAllReady, List.mem_append, List.mem_cons, List.not_mem_nil, or_false] at ho
      rcases ho with ((ho | ho) | ho) | ho
      · exact hshown _ ho
      · rw [hbroadcast _ _ ho]
        exact hcalled
      · split at ho
        · rw [List.mem_singleton.1 ho] at hsent
          cases hsent
        · cases ho
      · rw [ho] at hsent
        cases hsent
    · cases ho
  · split at ho
    · rw [hbroadcast _ _ (List.mem_singleton.1 ho)]
      trivial
    · cases ho

/-! ## The server on its own -/

theorem wellSeated_room {r : Room} (h : r.server.server.WellSeated) (m : Move) :
    (room.next r m).1.server.server.WellSeated := by
  cases m with
  | serve i peerAddr tick =>
    show (r.serve i peerAddr tick).1.server.server.WellSeated
    cases hu : r.up.get i with
    | nil =>
      rw [Room.serve_nil hu]
      exact h
    | cons u rest =>
      rw [Room.serve_cons hu, Room.post_server]
      exact wellSeated_message h _
  | endStep tick => exact wellSeated_finish h tick
  | deliver i =>
    show (r.deliver i).1.server.server.WellSeated
    rw [Room.server_deliver]
    exact h
  | perform i d => exact h

/-! ## Inputs for runs written out -/

namespace Sample
open Sf4e.Session.Sample

def serve (i : Side) : Move := .serve i peerAddr tick

def endStep : Move := .endStep tick

/-- A client that has said hello. -/
def newcomer (conn : Conn) (name : String) : SessionClient where
  conn
  sidecarHash := ascii "build"
  name := ascii name
  ggpoPort := 23457
  joinSecret := ascii "secret"
  spectator := false
  connected := true
  cid := .null
  lobbyData := ⟨⟨[], []⟩, false, 0, ⟨0, 0⟩, false, []⟩
  matchData := .clear
  outstandingReadyRequestNumber := -1
  messagesSent := 1
  desyncReported := false
  bDesyncAbort := false
  sentReady := false
  hiddenForBattle := false
  hasResult := false
  resultWinner := -1
  mySideAtResult := -1
  onMainMenu := true
  bSessionSentLoaded := false
  bSessionSynced := false
  battle := 0

/-- A new lobby, and the clients of connections 1 and 2. -/
def lobby : Room where
  server := sessionServer.run (start (lobbyHost 0))
    (acts [openLobby, .event (.connecting 1 1 true), .event (.connecting 2 2 true)])
  clients := ⟨newcomer 1 "A", newcomer 2 "B"⟩
  up := ⟨[⟨.hello, 1, 0⟩], [⟨.hello, 1, 0⟩]⟩
  down := ⟨[], []⟩
  calls := 0

theorem wellSeated_lobby (moves : List Move) : (room.run lobby moves).server.server.WellSeated :=
  room.inv_of_all_steps (fun r => r.server.server.WellSeated) (fun _ m h => wellSeated_room h m) moves
    (sessionServer.inv_of_all_steps (fun p => p.server.WellSeated) (fun _ a h => wellSeated_next h a) _
      (wellSeated_start _))

def joining : List Move :=
  [serve 0, .deliver 0, serve 0, serve 1, .deliver 1, serve 1, endStep, .deliver 0, .deliver 1]

def choice (charaID : UInt8) : Choices := ⟨{ CharaConditions.zero with charaID }, 5, 77, 0, 30, -1⟩

/-- Both press READY, and the match is called. -/
def readying : List Move :=
  [.perform 0 (.ready (choice 7)), .perform 1 (.ready (choice 9)), serve 0, serve 0, serve 0, serve 0, serve 1,
    serve 1, endStep, .deliver 0, .deliver 0, .deliver 0, .deliver 1, .deliver 1, .deliver 1]

/-- Both load, and the battle begins. -/
def loading : List Move :=
  [.perform 0 .draw, .perform 1 .draw, .perform 0 .hasInitialized, .perform 1 .hasInitialized, serve 0, serve 1,
    endStep, .deliver 0, .deliver 0, .deliver 1, .deliver 1]

/-- Client `i` is back in the lobby. -/
def back (i : Side) : List Move := [.perform i .exitForeground, .perform i .draw]

end Sample

end Sf4e.Netplay
