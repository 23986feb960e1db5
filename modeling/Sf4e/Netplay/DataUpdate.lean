import Sf4e.Netplay.SessionClient
import Sf4e.Session.Members
import Sf4e.Session.Reuse
/-!
# The data update on the wire

The server writes the lobby and the match into a `SessionDataUpdate`, the client
reads them and replaces what its game could not load. What the server holds is
such that the client gets it back whole and replaces nothing.
-/
open Sf4e.Lib

namespace Sf4e.Session

/-! ## Reading -/

def LobbyID.ofJson (j : Json) : Except JsonError LobbyID := do
  return { host := ← field j "host" Json.getStr, key := ← field j "key" Json.getStr }

def FixedPoint.ofJson (j : Json) : Except JsonError FixedPoint := do
  return { fractional := ← field j "fractional" Json.getUInt16, integral := ← field j "integral" Json.getInt16 }

/-- `flags` is not read, and a new `MemberData` has none. -/
def MemberData.ofJson (j : Json) : Except JsonError MemberData := do
  return {
    battleLoaded := false
    connId := ← field j "connId" ConnectionID.ofJson
    name := ← field j "name" Json.getStr
    ip := ← field j "ip" Json.getStr
    port := ← field j "port" Json.getUInt16
    spectator := ← field j "spectator" Json.getBool
    watching := ← field j "watching" Json.getBool
    hostPort := ← field j "hostPort" Json.getUInt16 }

/-- `LobbyData()`. -/
def LobbyData.default : LobbyData := ⟨⟨[], []⟩, false, 0, ⟨0, 0⟩, false, []⟩

/-- `NLOHMANN_DEFINE_TYPE_NON_INTRUSIVE_WITH_DEFAULT`: every field may be missing. -/
def LobbyData.ofJson (j : Json) : Except JsonError LobbyData := do
  return {
    id := ← j.value (ascii "id") LobbyID.ofJson LobbyData.default.id
    editionSelect := ← j.value (ascii "editionSelect") Json.getBool LobbyData.default.editionSelect
    roundCount := ← j.value (ascii "roundCount") Json.getInt32 LobbyData.default.roundCount
    roundTime := ← j.value (ascii "roundTime") FixedPoint.ofJson LobbyData.default.roundTime
    members := ← j.value (ascii "members") (Json.getVector MemberData.ofJson) LobbyData.default.members
    isPublic := ← j.value (ascii "isPublic") Json.getBool LobbyData.default.isPublic }

/-- A C array of one value for each side. -/
def sidesOfJson {α : Type} (get : Json → Except JsonError α) (j : Json) : Except JsonError (Sides α) := do
  return ⟨← get (← j.item 0), ← get (← j.item 1)⟩

/-- A server that predates the input delay leaves its key out. -/
def MatchData.ofJson (j : Json) : Except JsonError MatchData := do
  return {
    readyMessageNum := ← field j "readyMessageNum" (sidesOfJson Json.getInt64)
    chara := ← field j "chara" (sidesOfJson CharaConditions.ofJson)
    stageID := ← field j "stageID" Json.getInt64
    rngSeed := ← field j "rngSeed" Json.getUInt32
    inputDelay := ←
      if j.contains (ascii "inputDelay") then field j "inputDelay" (sidesOfJson Json.getInt32) else .ok ⟨-1, -1⟩ }

/-- A `SessionDataUpdate`, without its type. -/
def updateOfJson (j : Json) : Except JsonError (LobbyData × MatchData) := do
  return (← field j "lobbyData" LobbyData.ofJson, ← field j "matchData" MatchData.ofJson)

/-! ## Reading back what was written -/

section Fields

variable {α : Type} {key key' : String} {get : Json → Except JsonError α}

theorem field_head (key : String) (v : Json) (fs : List (String × Json)) (get : Json → Except JsonError α) :
    field (jsonObj ((key, v) :: fs)) key get = get v := by
  simp only [field, jsonObj, Json.at', List.map_cons, Json.member, if_true]
  rfl

theorem field_tail (h : ascii key' ≠ ascii key) (v : Json) (fs : List (String × Json)) :
    field (jsonObj ((key', v) :: fs)) key get = field (jsonObj fs) key get := by
  simp only [field, jsonObj, Json.at', List.map_cons, Json.member, if_neg h]

theorem value_head (key : String) (v : Json) (fs : List (String × Json)) (fallback : α) :
    (jsonObj ((key, v) :: fs)).value (ascii key) get fallback = get v := by
  simp only [jsonObj, Json.value, List.map_cons, Json.member, if_true]

theorem value_tail (h : ascii key' ≠ ascii key) (v : Json) (fs : List (String × Json)) (fallback : α) :
    (jsonObj ((key', v) :: fs)).value (ascii key) get fallback = (jsonObj fs).value (ascii key) get fallback := by
  simp only [jsonObj, Json.value, List.map_cons, Json.member, if_neg h]

theorem contains_head (key : String) (v : Json) (fs : List (String × Json)) :
    (jsonObj ((key, v) :: fs)).contains (ascii key) = true := by
  simp only [jsonObj, Json.contains, List.map_cons, Json.member, if_true, Option.isSome_some]

theorem contains_tail (h : ascii key' ≠ ascii key) (v : Json) (fs : List (String × Json)) :
    (jsonObj ((key', v) :: fs)).contains (ascii key) = (jsonObj fs).contains (ascii key) := by
  simp only [jsonObj, Json.contains, List.map_cons, Json.member, if_neg h]

end Fields

theorem ConnectionID.ofJson_toJson (c : ConnectionID) : ConnectionID.ofJson c.toJson = .ok c := by
  simp (disch := decide) only [ConnectionID.ofJson, ConnectionID.toJson, field_head, field_tail]
  rfl

theorem FixedPoint.ofJson_toJson (v : FixedPoint) : FixedPoint.ofJson v.toJson = .ok v := by
  simp (disch := decide) only [FixedPoint.ofJson, FixedPoint.toJson, field_head, field_tail, Json.getUInt16_int,
    Json.getInt16_int]
  rfl

theorem CharaConditions.ofJson_toJson (c : CharaConditions) : CharaConditions.ofJson c.toJson = .ok c := by
  simp (disch := decide) only [CharaConditions.ofJson, CharaConditions.toJson, field_head, field_tail, Json.getUInt8_int]
  rfl

/-- The member without its flags. -/
def MemberData.unflagged (m : MemberData) : MemberData := { m with battleLoaded := false }

theorem MemberData.ofJson_toJson (m : MemberData) : MemberData.ofJson m.toJson = .ok m.unflagged := by
  simp (disch := decide) only [MemberData.ofJson, MemberData.toJson, field_head, field_tail,
    ConnectionID.ofJson_toJson, Json.getUInt16_int]
  rfl

def LobbyData.unflagged (l : LobbyData) : LobbyData := { l with members := l.members.map (·.unflagged) }

theorem LobbyData.ofJson_toJson (l : LobbyData) : LobbyData.ofJson l.toJson = .ok l.unflagged := by
  have hid : LobbyID.ofJson (jsonObj [("host", .str l.id.host), ("key", .str l.id.key)]) = .ok l.id := by
    simp (disch := decide) only [LobbyID.ofJson, field_head, field_tail]
    rfl
  simp (disch := decide) only [LobbyData.ofJson, LobbyData.toJson, value_head, value_tail, hid, Json.getInt32_int,
    FixedPoint.ofJson_toJson, Json.getVector_arr MemberData.ofJson_toJson]
  rfl

theorem sidesOfJson_arr {α : Type} {get : Json → Except JsonError α} {a b : Json} {x y : α} (ha : get a = .ok x)
    (hb : get b = .ok y) : sidesOfJson get (.arr [a, b]) = .ok ⟨x, y⟩ := by
  show (get a >>= fun x => get b >>= fun y => pure (⟨x, y⟩ : Sides α)) = _
  rw [ha, hb]
  rfl

/-- What an `int64_t` can hold. -/
def FitsInt64 (n : Int) : Prop := -2 ^ 63 ≤ n ∧ n < 2 ^ 63

theorem MatchData.ofJson_toJson (d : MatchData) (hmarks : ∀ side, FitsInt64 (d.readyMessageNum.get side))
    (hstage : FitsInt64 d.stageID) : MatchData.ofJson d.toJson = .ok d := by
  have hreadies : sidesOfJson Json.getInt64 (.arr [.int d.readyMessageNum.s0, .int d.readyMessageNum.s1]) =
      .ok d.readyMessageNum := sidesOfJson_arr (Json.getInt64_int (hmarks 0).1 (hmarks 0).2)
    (Json.getInt64_int (hmarks 1).1 (hmarks 1).2)
  have hcharas := sidesOfJson_arr d.chara.s0.ofJson_toJson d.chara.s1.ofJson_toJson
  have hdelays := sidesOfJson_arr (Json.getInt32_int d.inputDelay.s0) (Json.getInt32_int d.inputDelay.s1)
  simp (disch := decide) only [MatchData.ofJson, MatchData.toJson, field_head, field_tail, contains_head, contains_tail,
    hreadies, hcharas, hdelays, Json.getInt64_int hstage.1 hstage.2, Json.getUInt32_int, if_true]
  rfl

/-! ## What may be written -/

/-- Keys of one object. -/
def KeysOk (keys : List String) : Prop := (keys.map ascii).Nodup ∧ ∀ key ∈ keys, isAscii key = true

instance (keys : List String) : Decidable (KeysOk keys) := inferInstanceAs (Decidable (_ ∧ _))

theorem plain_jsonObj {fs : List (String × Json)} (hkeys : KeysOk (fs.map Prod.fst)) (h : ∀ e ∈ fs, e.2.Plain) :
    (jsonObj fs).Plain := by
  obtain ⟨hnodup, hascii⟩ := hkeys
  rw [List.map_map] at hnodup
  rw [List.forall_mem_map] at hascii
  refine .obj ?_ ?_ ?_
  · rw [List.map_map]
    exact hnodup
  · rw [List.forall_mem_map]
    exact fun e he => validUtf8_ascii (hascii e he)
  · rw [List.forall_mem_map]
    exact h

def ConnectionID.Utf8 (c : ConnectionID) : Prop := ValidUtf8 c.host ∧ ValidUtf8 c.user

structure MemberData.Utf8 (m : MemberData) : Prop where
  connId : m.connId.Utf8
  name : ValidUtf8 m.name
  ip : ValidUtf8 m.ip

structure LobbyData.Utf8 (l : LobbyData) : Prop where
  id : ValidUtf8 l.id.host ∧ ValidUtf8 l.id.key
  members : ∀ m ∈ l.members, m.Utf8

theorem ConnectionID.plain {c : ConnectionID} (h : c.Utf8) : c.toJson.Plain := by
  refine plain_jsonObj (by simp only [List.map_cons, List.map_nil]; decide) ?_
  simp only [List.forall_mem_cons]
  exact ⟨.str h.1, .str h.2, nofun⟩

theorem FixedPoint.plain (v : FixedPoint) : v.toJson.Plain := by
  refine plain_jsonObj (by simp only [List.map_cons, List.map_nil]; decide) ?_
  simp only [List.forall_mem_cons]
  exact ⟨Json.plain_uint16 _, Json.plain_int16 _, nofun⟩

theorem CharaConditions.plain (c : CharaConditions) : c.toJson.Plain := by
  refine plain_jsonObj (by simp only [List.map_cons, List.map_nil]; decide) ?_
  simp only [List.forall_mem_cons]
  exact ⟨Json.plain_uint8 _, Json.plain_uint8 _, Json.plain_uint8 _, Json.plain_uint8 _, Json.plain_uint8 _,
    Json.plain_uint8 _, Json.plain_uint8 _, Json.plain_uint8 _, Json.plain_uint8 _, nofun⟩

theorem MemberData.plain {m : MemberData} (h : m.Utf8) : m.toJson.Plain := by
  refine plain_jsonObj (by simp only [List.map_cons, List.map_nil]; decide) ?_
  simp only [List.forall_mem_cons]
  exact ⟨ConnectionID.plain h.connId, .str h.name, .str h.ip, Json.plain_uint16 _, .bool _, .bool _,
    Json.plain_uint16 _, nofun⟩

theorem LobbyData.plain {l : LobbyData} (h : l.Utf8) : l.toJson.Plain := by
  have hid : (jsonObj [("host", .str l.id.host), ("key", .str l.id.key)]).Plain := by
    refine plain_jsonObj (by simp only [List.map_cons, List.map_nil]; decide) ?_
    simp only [List.forall_mem_cons]
    exact ⟨.str h.id.1, .str h.id.2, nofun⟩
  have hmembers : (Json.arr (l.members.map MemberData.toJson)).Plain := by
    refine .arr ?_
    rw [List.forall_mem_map]
    exact fun m hm => MemberData.plain (h.members m hm)
  refine plain_jsonObj (by simp only [List.map_cons, List.map_nil]; decide) ?_
  simp only [List.forall_mem_cons]
  exact ⟨hid, .bool _, Json.plain_int32 _, l.roundTime.plain, hmembers, .bool _, nofun⟩

theorem MatchData.plain {d : MatchData} (hmarks : ∀ side, FitsInt64 (d.readyMessageNum.get side))
    (hstage : FitsInt64 d.stageID) : d.toJson.Plain := by
  have hint : ∀ n, FitsInt64 n → (Json.int n).Plain := fun n hn => .int hn.1 (Int.lt_trans hn.2 (by decide))
  have hpair : ∀ a b : Json, a.Plain → b.Plain → (Json.arr [a, b]).Plain := by
    intro a b ha hb
    refine .arr ?_
    simp only [List.forall_mem_cons]
    exact ⟨ha, hb, nofun⟩
  refine plain_jsonObj (by simp only [List.map_cons, List.map_nil]; decide) ?_
  simp only [List.forall_mem_cons]
  exact ⟨hpair _ _ (hint _ (hmarks 0)) (hint _ (hmarks 1)), hpair _ _ (CharaConditions.plain _) (CharaConditions.plain _),
    hint _ hstage, Json.plain_uint32 _, hpair _ _ (Json.plain_int32 _) (Json.plain_int32 _), nofun⟩

/-! ## The match data of a server -/

/-- The match data is what a client's game can load, and fits its types. -/
structure MatchData.Sane (d : MatchData) : Prop where
  chara : ∀ side, charaConditionsValid (d.chara.get side) = true
  stageID : d.stageID = -1 ∨ stageIDValid d.stageID = true
  marks : ∀ side, FitsInt64 (d.readyMessageNum.get side)

theorem fitsInt64_neg_one : FitsInt64 (-1) := ⟨by decide, by decide⟩

theorem MatchData.Sane.clear : MatchData.Sane .clear where
  chara side := by cases side using Side.cases <;> exact charaConditionsValid_zero
  stageID := .inl rfl
  marks side := by cases side using Side.cases <;> exact fitsInt64_neg_one

theorem MatchData.Sane.stage_fits {d : MatchData} (h : d.Sane) : FitsInt64 d.stageID := by
  rcases h.stageID with hnone | hvalid
  · rw [hnone]
    exact fitsInt64_neg_one
  · unfold stageIDValid STAGE_COUNT at hvalid
    rw [Bool.and_eq_true, decide_eq_true_eq, decide_eq_true_eq] at hvalid
    exact ⟨by omega, by omega⟩

/-- A side is set to something that is as it should be. -/
theorem sides_set {α : Type} {P : α → Prop} {x : Sides α} (h : ∀ side, P (x.get side)) {v : α} (hv : P v) (side s : Side) :
    P ((x.set side v).get s) := by
  by_cases hs : s = side
  · subst hs
    rwa [Sides.get_set_self]
  · rw [Sides.get_set_ne x v hs]
    exact h s

/-- A message's number fits its type. -/
def NumberFits : Act → Prop
  | .message m => m.messageNumber < 2 ^ 63
  | _ => True

instance : (a : Act) → Decidable (NumberFits a)
  | .message _ => Nat.decLt _ _
  | .endStep _ | .event _ => .isTrue trivial

namespace Table

theorem sane_dropPick {t : Table} (h : t.matchData.Sane) (side : Side) : (t.dropPick side).matchData.Sane := by
  unfold dropPick
  split
  · exact ⟨sides_set (P := fun c => charaConditionsValid c = true) h.chara charaConditionsValid_zero side, h.stageID,
      sides_set h.marks fitsInt64_neg_one side⟩
  · exact h

theorem sane_ready {t : Table} (h : t.matchData.Sane) (side : Side) {num : Nat} (hnum : num < 2 ^ 63)
    (request : LobbyReady) : (t.ready side num request).matchData.Sane := by
  have hfits : FitsInt64 num := ⟨by omega, by omega⟩
  have hmark : (t.mark side num request).matchData.Sane := ⟨h.chara, h.stageID, sides_set h.marks hfits side⟩
  unfold ready stamp
  dsimp only
  split
  · exact ⟨hmark.chara, hmark.stageID, hmark.marks⟩
  · exact hmark

theorem sane_result {t : Table} (h : t.matchData.Sane) (loser : Int) : (t.result loser).matchData.Sane := by
  have hmarks : ∀ side, FitsInt64 ((⟨-1, -1⟩ : Sides Int).get side) := by
    intro side
    cases side using Side.cases <;> exact fitsInt64_neg_one
  unfold result
  split
  · refine ⟨fun side => ?_, h.stageID, hmarks⟩
    show charaConditionsValid (t.matchData.chara.swap.get side) = true
    rw [Sides.get_swap]
    exact h.chara side.other
  · exact ⟨h.chara, h.stageID, hmarks⟩

end Table

theorem sane_next {p : Stepping} (hw : p.server.WellSeated) (h : p.server.matchData.Sane) {a : Act} (hnum : NumberFits a) :
    (sessionServer.next p a).1.server.matchData.Sane := by
  have heffect := effect_of hw a
  have hmatch : (sessionServer.next p a).1.server.matchData = (sessionServer.next p a).1.table.matchData := rfl
  have ht : p.table.matchData.Sane := h
  rw [hmatch]
  generalize (sessionServer.next p a).1.table = t at heffect ⊢
  cases heffect with
  | idle => exact ht
  | sit => exact ht
  | load => exact ht
  | seed => exact ⟨ht.chara, ht.stageID, ht.marks⟩
  | stage _ _ _ hvalid => exact ⟨ht.chara, .inr hvalid, ht.marks⟩
  | pick _ _ _ hvalid =>
    exact ⟨sides_set (P := fun c => charaConditionsValid c = true) ht.chara hvalid _, ht.stageID, ht.marks⟩
  | ready => exact Table.sane_ready ht _ hnum _
  | unready => exact ⟨ht.chara, ht.stageID, sides_set ht.marks fitsInt64_neg_one _⟩
  | result => exact Table.sane_result ht _
  | leave => exact ht
  | create => exact .clear
  | release => exact .clear
  | unload => exact ht
  | finish => exact Table.sane_dropPick (Table.sane_dropPick ht 0) 1

/-! ## What a server holds and sends -/

open SessionServer

/-- What a server holds can be sent, names apart. -/
structure Sendable (s : SessionServer) : Prop where
  seated : s.WellSeated
  identity : ValidUtf8 s.identity
  lobby : s.lobbyData.id = ⟨s.identity, ascii "1"⟩
  ips : ∀ m ∈ s.register.members, ValidUtf8 m.data.ip
  sane : s.matchData.Sane

theorem sendable_start {cfg : HostConfig} (hid : ValidUtf8 cfg.identity) : Sendable (start cfg).server where
  seated := wellSeated_start cfg
  identity := hid
  lobby := rfl
  ips _ h := by cases h
  sane := .clear

theorem utf8_newMember (s : SessionServer) (m : IncomingMsg) (request : SessionJoinRequest) (cid : ConnectionID) :
    ValidUtf8 (s.newMember m.conn request m.peerAddr cid).data.ip := by
  show ValidUtf8 (if s.relayPort ≠ 0 || m.peerAddr.localHost then [] else m.peerAddr.text)
  split
  · exact validUtf8_nil
  · exact validUtf8_of_ascii m.peerAddr.text_ascii

theorem sendable_next {p : Stepping} (h : Sendable p.server) {a : Act} (hnum : NumberFits a) :
    Sendable (sessionServer.next p a).1.server := by
  have hsetup := setup_next p a
  exact
    { seated := wellSeated_next h.seated a
      identity := hsetup.identity ▸ h.identity
      lobby := by rw [hsetup.lobbyID, h.lobby, hsetup.identity]
      ips := forall_members (membership_of p a) h.ips fun m cid request _ _ => utf8_newMember p.server m request cid
      sane := sane_next h.seated h.sane hnum }

theorem sendable_run {cfg : HostConfig} (hid : ValidUtf8 cfg.identity) {as : List Act} (hnum : ∀ a ∈ as, NumberFits a) :
    Sendable (sessionServer.run (start cfg) as).server :=
  Machine.inv_of_steps (C := fun _ _ a => NumberFits a) (fun _ (p : Stepping) => Sendable p.server)
    (fun _ _ _ hI hC => sendable_next hI hC) (sendable_start hid) (Machine.meets_of_forall (h := []) hnum)

/-- An update that is sent is that of a server with the same members and setup. -/
theorem sent_update {p : Stepping} {a : Act} {o : Out} {u : LobbyData × MatchData}
    (ho : o ∈ (sessionServer.next p a).2) (hu : o.update? = some u) :
    ∃ s : SessionServer, s.register = p.server.register ∧ SetupKept p.server s ∧
      s.matchData = (sessionServer.next p a).1.server.matchData ∧
      u = ({ s.lobbyData with members := s.clients.map (·.data) }, s.matchData) := by
  cases a with
  | message m =>
    rw [Out.no_update (message_quiet p m o ho)] at hu
    cases hu
  | event e =>
    rw [Out.no_update (event_quiet p e o ho)] at hu
    cases hu
  | endStep tick =>
    rw [next_endStep, finishStep_out] at ho
    rw [next_endStep, finishStep_server]
    have hregister : (settled p tick).register = p.server.register := by
      rw [settled, register_exchange, dropCharaFromVacatedSeats, register_dropped, register_dropped]
    have hsame : (settled p tick).sendUpdate.1.register = p.server.register ∧
        (settled p tick).sendUpdate.1.matchData = (settled p tick).matchData := by
      unfold sendUpdate
      split <;> exact ⟨hregister, rfl⟩
    simp only [List.mem_append] at ho
    rcases ho with ((ho | ho) | ho) | ho
    · rw [Out.no_update (exchange_quiet _ _ o ho)] at hu
      cases hu
    · rw [sendUpdate_out _ o ho] at hu
      refine ⟨settled p tick, hregister, setup_settled p tick, ?_, (Option.some.inj hu).symm⟩
      split
      · exact hsame.2.symm
      · exact hsame.2.symm
    · split at ho
      · rename_i hcalled
        rw [if_pos hcalled]
        simp only [sendAllReady, List.mem_append, List.mem_cons, List.not_mem_nil, or_false] at ho
        rcases ho with ((rfl | rfl) | ho) | rfl
        · exact ⟨(settled p tick).sendUpdate.1.callSpectators, (register_callSpectators _).trans hsame.1,
            ((setup_settled p tick).trans (setup_sendUpdate _)).trans (setup_callSpectators _), rfl, (Option.some.inj hu).symm⟩
        · cases hu
        · split at ho
          · rw [List.mem_singleton.1 ho] at hu
            cases hu
          · cases ho
        · cases hu
      · cases ho
    · split at ho
      · rw [List.mem_singleton.1 ho] at hu
        cases hu
      · cases ho

/-- The text of a sent update is valid when the names are. -/
theorem utf8_update {p : Stepping} (h : Sendable p.server) (hnames : ∀ m ∈ p.server.clients, ValidUtf8 m.data.name)
    {s : SessionServer} (hregister : s.register = p.server.register) (hsetup : SetupKept p.server s) :
    LobbyData.Utf8 { s.lobbyData with members := s.clients.map (·.data) } where
  id := by
    show ValidUtf8 s.lobbyData.id.host ∧ ValidUtf8 s.lobbyData.id.key
    rw [hsetup.lobbyID, h.lobby]
    exact ⟨h.identity, validUtf8_ascii (by decide)⟩
  members := by
    rw [List.forall_mem_map]
    intro m hm
    have hstanding : m.standing ∈ p.server.register.members := by
      rw [← hregister]
      exact List.mem_map_of_mem hm
    obtain ⟨m₀, hm₀, heq⟩ := List.mem_map.1 hstanding
    have hconnId : m₀.data.connId = m.data.connId := congrArg (·.data.connId) heq
    have hname : m₀.data.name = m.data.name := congrArg (·.data.name) heq
    have hconn : m.data.connId.Utf8 := by
      rw [← hconnId, h.seated.ids m₀ hm₀]
      exact ⟨h.identity, validUtf8_of_ascii (toDecimal_ascii _)⟩
    exact ⟨hconn, hname ▸ hnames m₀ hm₀, h.ips m.standing hstanding⟩

end Sf4e.Session

namespace Sf4e.Netplay

open Sf4e.Session

/-! ## At the client -/

theorem sanitizeCharaConditions_of_valid {c : CharaConditions} (h : charaConditionsValid c = true) :
    sanitizeCharaConditions c = c := by
  simp only [charaConditionsValid, Bool.and_eq_true, decide_eq_true_eq, beq_iff_eq] at h
  obtain ⟨⟨⟨⟨hchara, hcostume⟩, hcolor⟩, hultra⟩, hhandicap⟩ := h
  unfold sanitizeCharaConditions
  rw [if_neg (UInt8.not_le.2 hchara), if_neg (UInt8.not_le.2 hcostume), if_neg (UInt8.not_le.2 hcolor),
    if_neg (UInt8.not_le.2 hultra), ← hhandicap]

/-- The client takes a sane update over as it is. -/
theorem onDataUpdate_of_sane (c : SessionClient) (l : LobbyData) {d : MatchData} (h : d.Sane) :
    (c.onDataUpdate l d).lobbyData = l ∧ (c.onDataUpdate l d).matchData = d := by
  have hchara : (⟨sanitizeCharaConditions d.chara.s0, sanitizeCharaConditions d.chara.s1⟩ : Sides CharaConditions) =
      d.chara := by
    have h0 : sanitizeCharaConditions d.chara.s0 = d.chara.s0 := sanitizeCharaConditions_of_valid (h.chara 0)
    have h1 : sanitizeCharaConditions d.chara.s1 = d.chara.s1 := sanitizeCharaConditions_of_valid (h.chara 1)
    rw [h0, h1]
  have hstage : (if d.stageID ≠ -1 && !stageIDValid d.stageID then 0 else d.stageID) = d.stageID := by
    refine if_neg ?_
    rcases h.stageID with hnone | hvalid
    · simp [hnone]
    · simp [hvalid]
  have hsame : ({ d with
      chara := ⟨sanitizeCharaConditions d.chara.s0, sanitizeCharaConditions d.chara.s1⟩
      stageID := if d.stageID ≠ -1 && !stageIDValid d.stageID then 0 else d.stageID } : MatchData) = d := by
    rw [hchara, hstage]
  unfold SessionClient.onDataUpdate
  rw [hsame]
  dsimp only
  repeat' split
  all_goals exact ⟨rfl, rfl⟩

/-- The update arrives: it is written, sent and read back as it was, flags apart, and the client
replaces nothing. `wire` is `dump` and then `parse`. -/
def Arrives (wire : Json → Option Json) (l : LobbyData) (d : MatchData) : Prop :=
  ∃ j, wire (ServerMsg.dataUpdate l d).toJson = some j ∧
    field j "type" (fun t => .ok (MessageType.ofJson t)) = .ok .sessionDataUpdate ∧
    updateOfJson j = .ok (l.unflagged, d) ∧
    ∀ c : SessionClient, (c.onDataUpdate l.unflagged d).lobbyData = l.unflagged ∧
      (c.onDataUpdate l.unflagged d).matchData = d

theorem updateOfJson_toJson (l : LobbyData) {d : MatchData} (hd : d.Sane) :
    updateOfJson (ServerMsg.dataUpdate l d).toJson = .ok (l.unflagged, d) := by
  simp (disch := decide) only [updateOfJson, ServerMsg.toJson, field_head, field_tail, LobbyData.ofJson_toJson,
    MatchData.ofJson_toJson d hd.marks hd.stage_fits]
  rfl

theorem arrives_of_sane {wire : Json → Option Json} (hwire : ∀ j, j.Plain → wire j = some j) {l : LobbyData}
    {d : MatchData} (hl : l.Utf8) (hd : d.Sane) : Arrives wire l d := by
  refine ⟨(ServerMsg.dataUpdate l d).toJson, hwire _ ?_, ?_, ?_, fun c => onDataUpdate_of_sane c _ hd⟩
  · have htype : (MessageType.toJson .sessionDataUpdate).Plain := .str (validUtf8_ascii (by decide))
    refine plain_jsonObj (by simp only [List.map_cons, List.map_nil]; decide) ?_
    simp only [List.forall_mem_cons]
    exact ⟨htype, LobbyData.plain hl, MatchData.plain hd.marks hd.stage_fits, nofun⟩
  · simp only [ServerMsg.toJson, field_head, MessageType.ofJson_toJson]
  · exact updateOfJson_toJson l hd

/-- Every update that a server sends its members arrives, if their names are text. -/
theorem update_arrives {wire : Json → Option Json} (hwire : ∀ j, j.Plain → wire j = some j) (cfg : HostConfig)
    (hid : ValidUtf8 cfg.identity) (as : List Act) (hnum : ∀ a ∈ as, NumberFits a)
    (hnames : ∀ m ∈ (sessionServer.run (start cfg) as).server.clients, ValidUtf8 m.data.name) (a : Act)
    (ha : NumberFits a) :
    ∀ o ∈ (sessionServer.next (sessionServer.run (start cfg) as) a).2, ∀ u ∈ o.update?, Arrives wire u.1 u.2 := by
  intro o ho u hu
  have h := sendable_run hid hnum
  obtain ⟨s, hregister, hsetup, hmatch, rfl⟩ := sent_update ho hu
  refine arrives_of_sane hwire (utf8_update h hnames hregister hsetup) ?_
  rw [hmatch]
  exact (sendable_next h ha).sane

/-- Two players have joined, and the Step ends. -/
theorem update_arrives_joined :
    (sessionServer.next (sessionServer.run (start (lobbyHost 0)) ((acts Sample.twoPlayers).dropLast)) (.endStep Sample.tick)).2.any
        (fun o => o.update?.isSome) = true ∧
      ∀ o ∈ (sessionServer.next (sessionServer.run (start (lobbyHost 0)) ((acts Sample.twoPlayers).dropLast))
          (.endStep Sample.tick)).2,
        ∀ u ∈ o.update?, Arrives (fun j => if j.Dumps then some j else none) u.1 u.2 := by
  refine ⟨by decide +kernel, ?_⟩
  exact update_arrives (fun j hj => if_pos hj.dumps) (lobbyHost 0) (by decide +kernel) _ (by decide +kernel)
    (by decide +kernel) _ trivial

end Sf4e.Netplay
