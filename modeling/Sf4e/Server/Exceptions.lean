import Sf4e.Server.Matchmaker
import Sf4e.Session.Text
/-!
# Exceptions that nothing catches

Every parse and every conversion of the lobby server sits in a `try` block; the
dumps of `Respond`, `BroadcastMessage`, `LogStat` and of the matchmaker's reply
do not. `no_uncaught_throw`: they all return while names and diffs are cut
between characters.
-/
open Sf4e.Lib Sf4e.Session

namespace Sf4e.Server

/-- Every `dump` this needs returns. -/
def Output.Dumps (env : StatsEnv) : Output → Prop
  | .session _ o => o.Dumps env
  | .reply _ _ msg => msg.Dumps
  | .logStat stat time => env.enabled = true → (stat.toJson env.region time).Dumps
  | .clearRelays _ => True

instance (env : StatsEnv) (o : Output) : Decidable (o.Dumps env) := by
  unfold Output.Dumps
  split <;> infer_instance

/-- No dump of this step throws. -/
def NoThrow (parse : Bytes → Option Json) (env : StatsEnv) (s : LobbyServer) (i : Input) : Prop :=
  ∀ o ∈ ((lobbyServer parse).next s i).2, o.Dumps env

/-- The session message is cut between characters. -/
def InputCutsWhole (parse : Bytes → Option Json) (env : StatsEnv) (s : LobbyServer) (i : Input) : Prop :=
  match i with
  | .message index m => ∀ l ∈ s.lobbies[index]?, CutsWhole env l.server (m.read parse)
  | _ => True

instance (parse : Bytes → Option Json) (env : StatsEnv) (s : LobbyServer) (i : Input) :
    Decidable (NoThrow parse env s i) := by
  unfold NoThrow
  infer_instance

instance (parse : Bytes → Option Json) (env : StatsEnv) (s : LobbyServer) (i : Input) :
    Decidable (InputCutsWhole parse env s i) := by
  unfold InputCutsWhole
  split <;> infer_instance

/-! ## Text in the table -/

structure Lobby.TextOk (l : Lobby) : Prop where
  server : l.server.server.TextOk
  code : ValidUtf8 l.code
  title : ValidUtf8 l.title
  secret : ValidUtf8 l.secret

theorem text_codeDraw (d : CodeDraw) : ValidUtf8 d.text := by
  have hletter : ∀ b ∈ CODE_ALPHABET, b < 0x80 := ascii_lt (by simp)
  apply validUtf8_of_ascii
  intro b hb
  obtain ⟨i, -, rfl⟩ := List.mem_map.1 hb
  rw [List.getD_eq_getElem?_getD]
  cases hi : CODE_ALPHABET[i.val]? with
  | none => decide
  | some b => exact hletter b (List.mem_of_getElem? hi)

theorem text_secretDraw (d : SecretDraw) : ValidUtf8 d.text := by
  apply validUtf8_of_ascii
  intro b hb
  obtain ⟨i, -, rfl⟩ := List.mem_map.1 hb
  exact SessionServer.hexDigit_ascii i

theorem text_newCode {lobbies : List Lobby} {codes : List CodeDraw} {code : Bytes}
    (h : newCode lobbies codes = some code) : ValidUtf8 code := by
  obtain ⟨d, -, rfl⟩ := List.mem_map.1 (List.mem_of_find?_eq_some h)
  exact text_codeDraw d

theorem text_cleanText (s : Bytes) (cap : Nat) : ValidUtf8 (cleanText s cap) := by
  apply validUtf8_of_ascii
  intro b hb
  have hmem := (List.mem_filter.1 (List.mem_of_mem_take hb)).2
  rw [Bool.and_eq_true, decide_eq_true_eq, decide_eq_true_eq] at hmem
  exact UInt8.lt_of_le_of_lt hmem.2 (by decide)

theorem text_ip (ip : UInt32) : ValidUtf8 (ipText ip) := by
  have hnum : ∀ n, ValidUtf8 (toDecimal n) := fun n => validUtf8_of_ascii (toDecimal_ascii n)
  have hdot : ValidUtf8 (ascii ".") := validUtf8_ascii (by decide)
  unfold ipText
  refine validUtf8_append (validUtf8_append (validUtf8_append (validUtf8_append (validUtf8_append
    (validUtf8_append ?_ hdot) ?_) hdot) ?_) hdot) ?_ <;> exact hnum _

theorem text_createRequest {req : Json} {r : CreateRequest} (h : CreateRequest.ofJson req = .ok (some r)) :
    ValidUtf8 r.title := by
  unfold CreateRequest.ofJson at h
  obtain ⟨hash, -, h⟩ := bind_ok h
  split at h
  · cases h
  · obtain ⟨isPublic, -, h⟩ := bind_ok h
    obtain ⟨title, -, h⟩ := bind_ok h
    dsimp only at h
    split at h
    · cases h
      exact text_cleanText _ _
    · obtain ⟨who, -, h⟩ := bind_ok h
      cases h
      dsimp only
      split
      · exact validUtf8_ascii (by decide)
      · exact validUtf8_append (validUtf8_ascii (by decide)) (text_cleanText _ _)

/-! ## Replies -/

theorem dumps_refusal {error : String} (h : isAscii error = true) : (refusal error).Dumps := by
  refine dumps_jsonObj (by simp) ?_
  simpa using validUtf8_ascii h

theorem dumps_admission {l : Lobby} (h : l.TextOk) : (admission l).Dumps := by
  refine dumps_jsonObj (by simp) ?_
  simpa using ⟨h.code, h.secret⟩

theorem dumps_listing {l : Lobby} (h : l.TextOk) (now : UInt64) : (LobbyServer.listing l now).Dumps := by
  refine dumps_jsonObj (by simp) ?_
  simpa using ⟨h.code, h.title⟩

theorem dumps_ping (s : LobbyServer) (browsing : Nat) : (s.pingReply browsing).Dumps := by
  have hversion : ValidUtf8 SF4E_VERSION := validUtf8_ascii (by decide)
  refine dumps_jsonObj (by simp) ?_
  simpa using hversion

theorem dumps_stun (d : Datagram) : (LobbyServer.stunReply d).Dumps := by
  refine dumps_jsonObj (by simp) ?_
  simpa using text_ip d.ip

theorem dumps_list {s : LobbyServer} (h : ∀ l ∈ s.lobbies, l.TextOk) (now : UInt64) (browsing : Nat) :
    (s.listReply now browsing).Dumps := by
  have hshown : ∀ x ∈ ((s.lobbies.filter fun l => l.active && l.isPublic && l.memberCount ≠ 0).take 20).map
      fun l => LobbyServer.listing l now, x.Dumps := by
    intro x hx
    obtain ⟨l, hl, rfl⟩ := List.mem_map.1 hx
    exact dumps_listing (h l (List.mem_filter.1 (List.mem_of_mem_take hl)).1) now
  refine dumps_jsonObj (by simp) ?_
  intro v hv
  simp only [List.map_cons, List.map_nil, List.mem_cons, List.not_mem_nil, or_false] at hv
  rcases hv with rfl | rfl | rfl | rfl
  · exact Json.dumps_bool _
  · exact Json.dumps_arr.2 hshown
  · exact Json.dumps_int _
  · exact Json.dumps_int _

theorem dumps_lobbyStat (stat : LobbyStat) {region : Bytes} (hr : ValidUtf8 region) (ts : Int) :
    (stat.toJson region ts).Dumps := by
  cases stat with
  | lobbyCreated i => exact dumps_line (by simp) (by simp) hr
  | lobbyReleased i => exact dumps_line (by simp) (by simp) hr

/-! ## One lobby -/

/-- What a step leaves of a lobby is valid, and what it sends dumps. -/
def Sound (r : Lobby × List Output) : Prop := r.1.TextOk ∧ ∀ env : StatsEnv, ∀ o ∈ r.2, o.Dumps env

theorem sound_host {l : Lobby} (h : l.TextOk) (e : Event) : Sound (l.host e) := by
  obtain ⟨hs, hout⟩ := text_host h.server e
  refine ⟨⟨hs, h.code, h.title, h.secret⟩, fun env o ho => ?_⟩
  obtain ⟨o', ho', rfl⟩ := List.mem_map.1 ho
  exact hout env o' ho'

theorem sound_reset {l : Lobby} (h : l.TextOk) (now : UInt64) (time : Int) : Sound (l.reset now time) := by
  have hcleared : Lobby.TextOk { l with
      active := false, code := [], hash := [], secret := [], creatorIp := 0, isPublic := false,
      title := [], lastNonEmpty := now } :=
    ⟨h.server, validUtf8_nil, validUtf8_nil, validUtf8_nil⟩
  obtain ⟨hl, hout⟩ := sound_host hcleared .release
  refine ⟨hl, fun env o ho => ?_⟩
  simp only [Lobby.reset, List.mem_append, List.mem_cons] at ho
  rcases ho with ho | rfl | ho
  · split at ho
    · rw [List.mem_singleton.1 ho]
      exact fun _ => dumps_lobbyStat _ env.region_utf8 time
    · cases ho
  · trivial
  · exact hout env o ho

theorem sound_activate {l : Lobby} (h : l.TextOk) {r : CreateRequest} (hr : ValidUtf8 r.title) {code : Bytes}
    (hcode : ValidUtf8 code) (d : Datagram) : Sound (LobbyServer.activate l r code d) := by
  have hnew : Lobby.TextOk { l with
      active := true, code, secret := d.secret.text, hash := r.hash, creatorIp := d.ip, createdAt := d.now,
      isPublic := r.isPublic, title := r.title, lastNonEmpty := d.now } :=
    ⟨h.server, hcode, hr, text_secretDraw d.secret⟩
  obtain ⟨hl, hout⟩ := sound_host hnew (.create r.hash d.secret.text r.isPublic)
  refine ⟨hl, fun env o ho => ?_⟩
  simp only [LobbyServer.activate, List.cons_append, List.mem_cons, List.mem_append, List.not_mem_nil,
    or_false] at ho
  rcases ho with rfl | ho | rfl
  · trivial
  · exact hout env o ho
  · exact fun _ => dumps_lobbyStat _ env.region_utf8 d.time

theorem sound_retired {r : Lobby × List Output} (h : Sound r) (now : UInt64) (time : Int) :
    Sound (if r.1.active && now - r.1.createdAt > MAX_LOBBY_AGE_MS then
      ((r.1.reset now time).1, r.2 ++ (r.1.reset now time).2) else (r.1, r.2)) := by
  split
  · obtain ⟨hl, hout⟩ := sound_reset h.1 now time
    refine ⟨hl, fun env o ho => ?_⟩
    rcases List.mem_append.1 ho with ho | ho
    · exact h.2 env o ho
    · exact hout env o ho
  · exact h

theorem sound_housekeeping {l : Lobby} (h : l.TextOk) (now : UInt64) (time : Int) :
    Sound (l.housekeeping now time) := by
  unfold Lobby.housekeeping
  split
  · exact ⟨h, by simp⟩
  · refine sound_retired (r := (if l.memberCount > 0 then ({ l with lastNonEmpty := now }, [])
      else if now - l.lastNonEmpty > EMPTY_LOBBY_TIMEOUT_MS then l.reset now time
      else (l, []))) ?_ now time
    split
    · exact ⟨⟨h.server, h.code, h.title, h.secret⟩, by simp⟩
    · split
      · exact sound_reset h now time
      · exact ⟨h, by simp⟩

/-! ## The matchmaker -/

namespace LobbyServer

def TextOk (s : LobbyServer) : Prop := ∀ l ∈ s.lobbies, l.TextOk

end LobbyServer

/-- What an answered datagram leaves, sends and replies. -/
def Answered (r : LobbyServer × List Output × Except JsonError Json) : Prop :=
  r.1.TextOk ∧ (∀ env : StatsEnv, ∀ o ∈ r.2.1, o.Dumps env) ∧ ∀ reply, r.2.2 = .ok reply → reply.Dumps

theorem answered_ok {s : LobbyServer} (h : s.TextOk) {j : Json} (hj : j.Dumps) : Answered (s, [], .ok j) :=
  ⟨h, by simp, fun reply hr => by cases hr; exact hj⟩

theorem answered_error {s : LobbyServer} (h : s.TextOk) (e : JsonError) : Answered (s, [], .error e) :=
  ⟨h, by simp, fun reply hr => by cases hr⟩

theorem sound_releaseOwn {lobbies : List Lobby} (h : ∀ l ∈ lobbies, l.TextOk) (ip : UInt32) (now : UInt64)
    (time : Int) : ∀ r ∈ LobbyServer.releaseOwn lobbies ip now time, Sound r := by
  intro r hr
  obtain ⟨l, hl, rfl⟩ := List.mem_map.1 hr
  split
  · exact sound_reset (h l hl) now time
  · exact ⟨h l hl, by simp⟩

theorem dumps_join {s : LobbyServer} (h : s.TextOk) {req reply : Json} (hr : s.onJoin req = .ok reply) :
    reply.Dumps := by
  unfold LobbyServer.onJoin at hr
  obtain ⟨code, -, hr⟩ := bind_ok hr
  dsimp only at hr
  obtain ⟨spectate, -, hr⟩ := bind_ok hr
  split at hr
  · cases hr
    exact dumps_refusal (by decide)
  · rename_i l hl
    have hadmit := dumps_admission (h l (List.mem_of_find?_eq_some hl))
    split at hr
    · cases hr
      exact dumps_refusal (by decide)
    · split at hr
      · cases hr
        exact dumps_refusal (by decide)
      · obtain ⟨hash, -, hr⟩ := bind_ok hr
        split at hr
        · cases hr
          exact dumps_refusal (by decide)
        · obtain ⟨who, -, hr⟩ := bind_ok hr
          cases hr
          exact hadmit

theorem answered_create {s : LobbyServer} (h : s.TextOk) (req : Json) {r : CreateRequest}
    (hr : ValidUtf8 r.title) (d : Datagram) {a : LobbyServer × List Output × Except JsonError Json}
    (ha : s.onCreate req r d = some a) : Answered a := by
  have hreleased := sound_releaseOwn h d.ip d.now d.time
  have htable : ∀ l ∈ (LobbyServer.releaseOwn s.lobbies d.ip d.now d.time).map (·.1), l.TextOk := by
    intro l hl
    obtain ⟨r, hr, rfl⟩ := List.mem_map.1 hl
    exact (hreleased r hr).1
  have hout : ∀ env : StatsEnv, ∀ o ∈ (LobbyServer.releaseOwn s.lobbies d.ip d.now d.time).flatMap (·.2),
      o.Dumps env := by
    intro env o ho
    obtain ⟨r, hr, ho⟩ := List.mem_flatMap.1 ho
    exact (hreleased r hr).2 env o ho
  have hfull : (refusal "server_full").Dumps := dumps_refusal (by decide)
  unfold LobbyServer.onCreate at ha
  dsimp only at ha
  split at ha
  · cases ha
    exact ⟨htable, hout, fun reply hr => by cases hr; exact hfull⟩
  · split at ha
    · cases ha
      exact ⟨htable, hout, fun reply hr => by cases hr; exact hfull⟩
    · split at ha
      · rename_i l code hl hcode
        cases ha
        obtain ⟨hnew, hmore⟩ := sound_activate (htable l (List.mem_of_getElem? hl)) hr (text_newCode hcode) d
        refine ⟨fun l' hl' => ?_, fun env o ho => ?_, fun reply hreply => ?_⟩
        · rcases List.mem_or_eq_of_mem_set hl' with hl' | rfl
          · exact htable l' hl'
          · exact hnew
        · rcases List.mem_append.1 ho with ho | ho
          · exact hout env o ho
          · exact hmore env o ho
        · obtain ⟨who, -, hreply⟩ := bind_ok hreply
          cases hreply
          exact dumps_admission hnew
      · cases ha

theorem answered_matchmaker {s : LobbyServer} (h : s.TextOk) (req : Json) (d : Datagram)
    {a : LobbyServer × List Output × Except JsonError Json} (ha : s.handleMatchmaker req d = some a) :
    Answered a := by
  have hbad : (refusal "bad_request").Dumps := dumps_refusal (by decide)
  unfold LobbyServer.handleMatchmaker at ha
  split at ha
  · cases ha
    exact answered_error h _
  · split at ha
    · cases ha
      exact answered_ok h (dumps_stun d)
    · split at ha
      · cases ha
        exact answered_error h _
      · split at ha
        · cases ha
          exact answered_ok h (dumps_ping _ _)
        · split at ha
          · split at ha
            · cases ha
              exact answered_error h _
            · cases ha
              exact answered_ok h hbad
            · rename_i r hr
              exact answered_create h req (text_createRequest hr) d ha
          · split at ha
            · cases ha
              exact answered_ok h (dumps_list h _ _)
            · split at ha
              · cases ha
                exact ⟨h, by simp, fun reply hr => dumps_join h hr⟩
              · cases ha
                exact answered_ok h hbad

/-- The token buckets are all it touches. -/
theorem allowMatchmaker_lobbies (s : LobbyServer) (ip : UInt32) (now : UInt64) :
    (s.allowMatchmaker ip now).1.lobbies = s.lobbies := by
  simp only [LobbyServer.allowMatchmaker, apply_ite Prod.fst, apply_ite LobbyServer.lobbies, ite_self]

theorem text_serveMatchmaker (parse : Bytes → Option Json) {s : LobbyServer} (h : s.TextOk) (d : Datagram) :
    (s.serveMatchmaker parse d).1.TextOk ∧
      ∀ env : StatsEnv, ∀ o ∈ (s.serveMatchmaker parse d).2, o.Dumps env := by
  have hbad : (refusal "bad_request").Dumps := dumps_refusal (by decide)
  have hallow : (s.allowMatchmaker d.ip d.now).1.TextOk := by
    rw [LobbyServer.TextOk, allowMatchmaker_lobbies]
    exact h
  -- the reply goes out after everything the request did
  have hreply : ∀ (s' : LobbyServer) (out : List Output) (j : Json), s'.TextOk →
      (∀ env : StatsEnv, ∀ o ∈ out, o.Dumps env) → j.Dumps →
        s'.TextOk ∧ ∀ env : StatsEnv, ∀ o ∈ out ++ [.reply d.ip d.port j], o.Dumps env := by
    intro s' out j hs hout hj
    refine ⟨hs, fun env o ho => ?_⟩
    rcases List.mem_append.1 ho with ho | ho
    · exact hout env o ho
    · rw [List.mem_singleton.1 ho]
      exact hj
  unfold LobbyServer.serveMatchmaker
  split
  · exact ⟨h, by simp⟩
  · dsimp only
    split
    · exact ⟨hallow, by simp⟩
    · split
      · exact hreply _ [] _ hallow (by simp) hbad
      · rename_i req _
        split
        · exact ⟨h, by simp⟩
        · rename_i s' out reply hm
          obtain ⟨hs, hout, hj⟩ := answered_matchmaker hallow req d hm
          exact hreply _ _ _ hs hout (hj reply rfl)
        · rename_i s' out e hm
          obtain ⟨hs, hout, -⟩ := answered_matchmaker hallow req d hm
          exact hreply _ _ _ hs hout hbad

/-! ## The process -/

theorem text_onLobby {s : LobbyServer} (h : s.TextOk) {env : StatsEnv} {index : Nat}
    {f : Lobby → Lobby × List Output}
    (hf : ∀ l ∈ s.lobbies[index]?, (f l).1.TextOk ∧ ∀ o ∈ (f l).2, o.Dumps env) :
    (s.onLobby index f).1.TextOk ∧ ∀ o ∈ (s.onLobby index f).2, o.Dumps env := by
  unfold LobbyServer.onLobby
  cases hl : s.lobbies[index]? with
  | none => exact ⟨h, by simp⟩
  | some l =>
    obtain ⟨hnew, hout⟩ := hf l hl
    refine ⟨fun l' hl' => ?_, hout⟩
    rcases List.mem_or_eq_of_mem_set hl' with hl' | rfl
    · exact h l' hl'
    · exact hnew

theorem text_act {l : Lobby} (h : l.TextOk) {env : StatsEnv} {a : Act}
    (ha : (Session.act l.server a).1.server.TextOk ∧ ∀ o ∈ (Session.act l.server a).2, o.Dumps env) :
    (l.act a).1.TextOk ∧ ∀ o ∈ (l.act a).2, o.Dumps env := by
  refine ⟨⟨ha.1, h.code, h.title, h.secret⟩, fun o ho => ?_⟩
  obtain ⟨o', ho', rfl⟩ := List.mem_map.1 ho
  exact ha.2 o' ho'

/-- One input: the text in the table stays valid, and no dump throws. -/
theorem text_input {parse : Bytes → Option Json} (hparse : ∀ data j, parse data = some j → j.Dumps)
    {env : StatsEnv} {s : LobbyServer} (h : s.TextOk) {i : Input} (hC : InputCutsWhole parse env s i) :
    ((lobbyServer parse).next s i).1.TextOk ∧ NoThrow parse env s i := by
  have hlobby : ∀ {index : Nat} {l : Lobby}, l ∈ s.lobbies[index]? → l.TextOk := fun hl =>
    h _ (List.mem_of_getElem? hl)
  cases i with
  | message index m =>
    refine text_onLobby h fun l hl => text_act (hlobby hl) ?_
    exact text_message (hlobby hl).server (textOk_ofBytes hparse m.data) (hC l hl)
  | endStep index tick =>
    exact text_onLobby h fun l hl => text_act (hlobby hl) (text_finish (hlobby hl).server env tick)
  | connecting index conn ip ok =>
    refine text_onLobby h fun l hl => text_act (hlobby hl) ?_
    obtain ⟨hs, hout⟩ := text_host (hlobby hl).server (.connecting conn ip ok)
    exact ⟨hs, hout env⟩
  | closed index conn was =>
    refine text_onLobby h fun l hl => text_act (hlobby hl) ?_
    obtain ⟨hs, hout⟩ := text_host (hlobby hl).server (.closed conn was)
    exact ⟨hs, hout env⟩
  | datagram d =>
    obtain ⟨hs, hout⟩ := text_serveMatchmaker parse h d
    exact ⟨hs, hout env⟩
  | housekeeping index now time =>
    apply text_onLobby h
    intro l hl
    obtain ⟨hl', hout⟩ := sound_housekeeping (hlobby hl) now time
    exact ⟨hl', hout env⟩

theorem text_start : LobbyServer.start.TextOk := by
  intro l hl
  obtain ⟨i, -, rfl⟩ := List.mem_map.1 hl
  have hname : ValidUtf8 (lobbyHost i).identity :=
    validUtf8_append (validUtf8_ascii (by decide)) (validUtf8_of_ascii (toDecimal_ascii i))
  have hkey : ValidUtf8 (ascii "1") := validUtf8_ascii (by decide)
  refine ⟨⟨hname, ⟨hname, hkey⟩, ?_, ?_⟩, validUtf8_nil, validUtf8_nil, validUtf8_nil⟩
  · intro m hm
    cases hm
  · intro conn cid hf
    cases hf

/-! ## A join, as bytes -/

namespace Sample

def secret : SecretDraw := ⟨List.replicate 32 0, by decide⟩

def code : CodeDraw := ⟨List.replicate 6 0, by decide⟩

def createText : Bytes := ascii "\x7b\"op\":\"create\",\"hash\":\"build\"\x7d"

def helloText : Bytes := ascii "\x7b\"type\":\"hello\"\x7d"

def joinText (name : Bytes) : Bytes :=
  ascii "\x7b\"type\":\"join_req\",\"sidecarHash\":\"build\",\"username\":\"" ++ name ++
    ascii "\",\"port\":23457,\"spectator\":false,\"secret\":\"" ++ secret.text ++ ascii "\"\x7d"

def joinJson (name : Bytes) : Json :=
  jsonObj [("type", .str (ascii "join_req")), ("sidecarHash", .str (ascii "build")), ("username", .str name),
    ("port", .int 23457), ("spectator", .bool false), ("secret", .str secret.text)]

/-- `json::parse` on these three texts; it accepts no others here. -/
def parse (name : Bytes) (data : Bytes) : Option Json :=
  if data = createText then
    some (jsonObj [("op", .str (ascii "create")), ("hash", .str (ascii "build"))])
  else if data = helloText then some (jsonObj [("type", .str (ascii "hello"))])
  else if data = joinText name then some (joinJson name)
  else none

theorem parse_utf8 {name : Bytes} (hname : ValidUtf8 name) :
    ∀ data j, parse name data = some j → j.Dumps := by
  intro data j h
  unfold parse at h
  split at h
  · cases h
    decide +kernel
  · split at h
    · cases h
      decide +kernel
    · split at h
      · cases h
        refine dumps_jsonObj (by simp) ?_
        simpa using ⟨hname, text_secretDraw secret⟩
      · cases h

def raw (data : Bytes) : Input := .message 0 ⟨1, data, 1, Session.Sample.peerAddr, Session.Sample.tick⟩

/-- A lobby is created, and a player joins it and is shown to the room. -/
def entering (name : Bytes) : List Input :=
  [.datagram ⟨createText, 0x0a000001, 50000, 1000, 0, [code], secret⟩, .connecting 0 1 0x0a000001 true,
    raw helloText, raw (joinText name), .endStep 0 Session.Sample.tick]

/-- A label that is empty, and no stats file. -/
def noStats : StatsEnv := ⟨false, [], validUtf8_nil⟩

/-- `é` after `n` letters. -/
def accented (n : Nat) : Bytes := List.replicate n 0x61 ++ [0xc3, 0xa9]

end Sample

/-- While names and diffs are cut between characters, nothing the process does
on its inputs throws outside a `try` block. -/
theorem no_uncaught_throw (parse : Bytes → Option Json) (hparse : ∀ data j, parse data = some j → j.Dumps)
    (env : StatsEnv) (inputs : List Input)
    (hC : (lobbyServer parse).Meets (fun _ => InputCutsWhole parse env) LobbyServer.start [] inputs) :
    (lobbyServer parse).Meets (fun _ => NoThrow parse env) LobbyServer.start [] inputs :=
  Machine.meets_of_inv (fun _ s => s.TextOk) (fun _ _ _ hs hi => (text_input hparse hs hi).1)
    (fun _ _ _ hs hi => (text_input hparse hs hi).2) text_start hC

theorem no_uncaught_throw_entering :
    (lobbyServer (Sample.parse (Sample.accented 30))).Meets
      (fun _ => NoThrow (Sample.parse (Sample.accented 30)) Sample.noStats) LobbyServer.start []
      (Sample.entering (Sample.accented 30)) :=
  no_uncaught_throw (Sample.parse (Sample.accented 30)) (Sample.parse_utf8 (by decide +kernel)) Sample.noStats
    (Sample.entering (Sample.accented 30)) (by decide +kernel)

/-- One letter more, and the cut at 32 bytes falls inside the last character. -/
theorem throw_on_a_cut_name :
    ¬ ∀ (parse : Bytes → Option Json), (∀ data j, parse data = some j → j.Dumps) →
      ∀ (env : StatsEnv) (inputs : List Input),
        (lobbyServer parse).Meets (fun _ => NoThrow parse env) LobbyServer.start [] inputs := by
  intro h
  have hthrow : ¬ (lobbyServer (Sample.parse (Sample.accented 31))).Meets
      (fun _ => NoThrow (Sample.parse (Sample.accented 31)) Sample.noStats) LobbyServer.start []
      (Sample.entering (Sample.accented 31)) := by decide +kernel
  exact hthrow (h _ (Sample.parse_utf8 (by decide +kernel)) Sample.noStats _)

end Sf4e.Server
