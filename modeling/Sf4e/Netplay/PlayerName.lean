import Sf4e.Launcher.Persona
import Sf4e.Netplay.Room
import Sf4e.Server.MatchmakerClient
/-!
# The player's own name

A player is called by the Steam persona or by the Windows user name, and the name goes
into the create, join and session join requests. `ownName_serialises_iff`: the requests
can be written exactly when the name is not cut inside a character, or, without a
persona, when the Windows name is UTF-8.
-/
open Sf4e.Lib Sf4e.Session Sf4e.Server Sf4e.Launcher

namespace Sf4e.Netplay

/-- `g_name` after `EnsureMatchmaker`. -/
def ensureMatchmaker (szName : Bytes) (getUserNameA : ℕ → Option Bytes) : Bytes :=
  let g_name := if szName ≠ [] then strncpyTruncate 32 szName else []
  if g_name = [] then (getUserNameA 32).getD (ascii "Player") else g_name

/-- The name of a player whose game was started by the launcher. -/
def ownName (w : Windows) (getUserNameA : ℕ → Option Bytes) : Bytes :=
  ensureMatchmaker (w.readSteamPersonaName 64) getUserNameA

/-- The other texts of the requests: a hash in hexadecimal digits, a code of six letters, and
what was read from the matchmaker's reply. -/
structure OtherTexts where
  sidecarHash : Bytes
  lobbyCode : Bytes
  secret : Bytes
  utf8 : ValidUtf8 sidecarHash ∧ ValidUtf8 lobbyCode ∧ ValidUtf8 secret

/-- The client that `StartSession` is given this name for, with its secret set. -/
def SessionClient.named (c : SessionClient) (name : Bytes) (o : OtherTexts) : SessionClient :=
  { c with name, sidecarHash := o.sidecarHash, joinSecret := o.secret }

/-! ## The requests -/

theorem dumps_of_jsonObj {fs : List (String × Json)} (h : (jsonObj fs).Dumps) (key : String) {s : Bytes}
    (mem : (key, Json.str s) ∈ fs) : ValidUtf8 s :=
  Json.dumps_str.1 (Json.dumps_obj.1 h _ (List.mem_map_of_mem mem)).2

theorem dumps_create {hash name : Bytes} (isPublic : Bool) (h : ValidUtf8 hash) :
    (Request.create hash name isPublic).toJson.Dumps ↔ ValidUtf8 name := by
  constructor
  · intro dumps
    exact dumps_of_jsonObj dumps "name" (by simp)
  · intro valid
    have title : ValidUtf8 (ascii "lobby by " ++ name) := validUtf8_append (validUtf8_ascii (by decide)) valid
    refine dumps_jsonObj (by simp) ?_
    simp [h, valid, title]

theorem dumps_joinLobby {code hash name : Bytes} (spectate : Bool) (hcode : ValidUtf8 code) (hhash : ValidUtf8 hash) :
    (Request.join code hash name spectate).toJson.Dumps ↔ ValidUtf8 name := by
  constructor
  · intro dumps
    exact dumps_of_jsonObj dumps "name" (by simp)
  · intro valid
    refine dumps_jsonObj (by simp) ?_
    simp [hcode, hhash, valid]

theorem dumps_joinSession {r : SessionJoinRequest} (hhash : ValidUtf8 r.sidecarHash) (hsecret : ValidUtf8 r.secret) :
    r.toJson.Dumps ↔ ValidUtf8 r.username := by
  constructor
  · intro dumps
    exact dumps_of_jsonObj dumps "username" (by simp)
  · intro valid
    refine dumps_jsonObj (by simp) ?_
    simp [dumps_type, hhash, hsecret, valid]

/-! ## The name -/

theorem ownName_eq (w : Windows) (getUserNameA : ℕ → Option Bytes) :
    ownName w getUserNameA =
      if w.steamPersona.takeWhile (· ≠ 0) = [] then (getUserNameA 32).getD (ascii "Player")
      else (w.steamPersona.takeWhile (· ≠ 0)).take 31 := by
  have twice : strncpyTruncate 32 (w.readSteamPersonaName 64) = (w.steamPersona.takeWhile (· ≠ 0)).take 31 :=
    strncpyTruncate_twice (by decide) w.steamPersona
  unfold ownName ensureMatchmaker
  rw [twice]
  -- the first cut does not matter to the second, and neither leaves nothing of a name
  by_cases none : w.steamPersona.takeWhile (· ≠ 0) = []
  · have nothing : w.readSteamPersonaName 64 = [] := by
      rw [Windows.readSteamPersonaName, strncpyTruncate, none, List.take_nil]
    rw [nothing, if_pos none]
    rfl
  · have some (n : ℕ) : (w.steamPersona.takeWhile (· ≠ 0)).take (n + 1) ≠ [] := by
      rw [Ne, List.take_eq_nil_iff, not_or]
      exact ⟨Nat.succ_ne_zero n, none⟩
    rw [if_neg none]
    dsimp only
    rw [if_pos (show w.readSteamPersonaName 64 ≠ [] from some 62), if_neg (some 30)]

/-- The name is a whole one: the 32nd byte of the persona, where it has one, begins a character, and
without a persona the name that Windows gives is UTF-8. -/
def NameWhole (w : Windows) (getUserNameA : ℕ → Option Bytes) : Prop :=
  if w.steamPersona.takeWhile (· ≠ 0) = [] then ∀ name ∈ getUserNameA 32, ValidUtf8 name
  else CutsBetween (w.steamPersona.takeWhile (· ≠ 0)) 31

instance (w : Windows) (getUserNameA : ℕ → Option Bytes) : Decidable (NameWhole w getUserNameA) :=
  inferInstanceAs (Decidable (if w.steamPersona.takeWhile (· ≠ 0) = [] then ∀ name ∈ getUserNameA 32, ValidUtf8 name
    else CutsBetween (w.steamPersona.takeWhile (· ≠ 0)) 31))

theorem validUtf8_ownName {w : Windows} (personas : w.PersonasUtf8) (getUserNameA : ℕ → Option Bytes) :
    ValidUtf8 (ownName w getUserNameA) ↔ NameWhole w getUserNameA := by
  rw [ownName_eq, NameWhole]
  split
  · cases getUserNameA 32 with
    | none => exact iff_of_true (validUtf8_ascii (by decide)) fun name mem => nomatch mem
    | some name =>
      exact ⟨fun valid other mem => Option.some.inj mem ▸ valid, fun valid => valid name rfl⟩
  · exact validUtf8_take (validUtf8_takeWhile (Windows.steamPersona_utf8 personas))

/-- The three requests made with the player's own name can be written exactly when the name is whole. -/
theorem ownName_serialises_iff (w : Windows) (getUserNameA : ℕ → Option Bytes) (personas : w.PersonasUtf8) (o : OtherTexts)
    (isPublic spectate : Bool) (c : SessionClient) (cid : ConnectionID) (battle : ℕ) :
    ((Request.create o.sidecarHash (ownName w getUserNameA) isPublic).toJson.Dumps ∧
      (Request.join o.lobbyCode o.sidecarHash (ownName w getUserNameA) spectate).toJson.Dumps ∧
      ∀ up ∈ ((c.named (ownName w getUserNameA) o).receive ⟨.helloResp cid, battle⟩).2.1,
        ∀ request, up.msg = .joinReq (some request) → request.toJson.Dumps) ↔
    NameWhole w getUserNameA := by
  obtain ⟨hash, code, secret⟩ := o.utf8
  rw [← validUtf8_ownName personas, dumps_create isPublic hash, dumps_joinLobby spectate code hash]
  constructor
  · exact fun h => h.1
  · intro valid
    refine ⟨valid, valid, fun up sent request said => ?_⟩
    obtain rfl := List.mem_singleton.1 sent
    cases said
    exact (dumps_joinSession hash secret).2 valid

/-- A Windows where one account has signed in to Steam. -/
def oneAccount (persona : Bytes) : Windows where
  steamPath _ := some (wide "C:\\Steam")
  pathCchCombine _ path more := (path ++ wide "\\" ++ more, true)
  good _ := true
  readVdf _ := some (.mk [] [(ascii "76561197960287930",
    .mk [(ascii "PersonaName", persona), (ascii "MostRecent", ascii "1")] [])])
  multiByteToWideChar text _ _ := text.map fun c => c.toUInt16
  pathIsDirectoryW path := path = wide "C:\\Steam"
  pathFileExistsW _ := false

def someTexts : OtherTexts := ⟨ascii "9f86d081", ascii "ABC234", ascii "5feceb66", by decide⟩

theorem ownName_serialises_iff_ryu :
    (Request.create someTexts.sidecarHash (ownName (oneAccount (ascii "Ryu")) fun _ => some (ascii "hoshi")) true).toJson.Dumps ∧
    (Request.join someTexts.lobbyCode someTexts.sidecarHash
      (ownName (oneAccount (ascii "Ryu")) fun _ => some (ascii "hoshi")) false).toJson.Dumps ∧
    ∀ up ∈ (((Sample.newcomer 1 "").named (ownName (oneAccount (ascii "Ryu")) fun _ => some (ascii "hoshi")) someTexts).receive
      ⟨.helloResp ⟨ascii "localhost", ascii "1"⟩, 0⟩).2.1,
      ∀ request, up.msg = .joinReq (some request) → request.toJson.Dumps :=
  (ownName_serialises_iff (oneAccount (ascii "Ryu")) (fun _ => some (ascii "hoshi"))
    (fun _ _ parsed it mem => by
      cases parsed
      obtain rfl := List.mem_singleton.1 mem
      decide)
    someTexts true false (Sample.newcomer 1 "") ⟨ascii "localhost", ascii "1"⟩ 0).2 (by decide)

/-- Without Steam, the Windows user name as code page 1252 has it; and a persona whose last letter has
two bytes, of which one fits. -/
theorem ownName_throws :
    ¬(Request.create (ascii "9f86d081") (ownName (oneAccount []) fun _ => some (ascii "Ren" ++ [0xE9])) true).toJson.Dumps ∧
    ¬(Request.create (ascii "9f86d081")
      (ownName (oneAccount (ascii "the world warrior from far awa" ++ [0xC3, 0xA9])) fun _ => none) true).toJson.Dumps := by
  decide +kernel

end Sf4e.Netplay
