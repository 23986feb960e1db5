import Sf4e.Lib.Containers
import Sf4e.Lib.Json
/-!
# The session protocol

The data of `sf4e__SessionProtocol`: members, lobby, match, the messages and
the bounds on what a player may choose.
-/
open Sf4e.Lib

namespace Sf4e.Session

def MAX_SF4E_PROTOCOL_USERS : Nat := 4
def MAX_SF4E_SPECTATORS : Nat := 2
def CHARA_COUNT : UInt8 := 0x2c
def STAGE_COUNT : Int := 30
def COSTUME_COUNT : UInt8 := 8
def COLOR_COUNT : UInt8 := 10
def ULTRA_COUNT : UInt8 := 3
def INPUT_DELAY_AUTO : Int32 := 0
def INPUT_DELAY_DEFAULT : Int32 := 2
def INPUT_DELAY_MAX : Int32 := 8

/-- `HSteamNetConnection`. -/
abbrev Conn := UInt32

def k_HSteamNetConnection_Invalid : Conn := 0

/-! ## Identities -/

structure ConnectionID where
  host : Bytes
  user : Bytes
  deriving DecidableEq

structure LobbyID where
  host : Bytes
  key : Bytes
  deriving DecidableEq

/-- The default `ConnectionID()`. -/
def ConnectionID.null : ConnectionID := ⟨[], []⟩

/-- A peer address. `text` is what `ToString` prints without the port: digits,
dots, colons and hexadecimal letters. -/
structure PeerAddr where
  ipv4 : Option UInt32
  localHost : Bool
  text : Bytes
  text_ascii : ∀ b ∈ text, b < 0x80

/-! ## Members, lobby and match -/

structure FixedPoint where
  fractional : UInt16
  integral : Int16
  deriving DecidableEq

structure CharaConditions where
  charaID : UInt8
  costume : UInt8
  color : UInt8
  unused : UInt8
  personalAction : UInt8
  winQuote : UInt8
  ultraCombo : UInt8
  handicap : UInt8
  unc_edition : UInt8
  deriving DecidableEq

/-- What `memset(&chara, 0, sizeof(chara))` leaves. -/
def CharaConditions.zero : CharaConditions := ⟨0, 0, 0, 0, 0, 0, 0, 0, 0⟩

/-- The flag `MF_BATTLE_LOADED` is the only one of `MemberData.flags`, and
`flags` is not part of the JSON form. -/
structure MemberData where
  connId : ConnectionID
  name : Bytes
  ip : Bytes
  port : UInt16
  battleLoaded : Bool
  spectator : Bool
  watching : Bool
  hostPort : UInt16
  deriving DecidableEq

structure LobbyData where
  id : LobbyID
  editionSelect : Bool
  roundCount : Int32
  roundTime : FixedPoint
  isPublic : Bool
  members : List MemberData
  deriving DecidableEq

structure MatchData where
  readyMessageNum : Sides Int
  chara : Sides CharaConditions
  stageID : Int
  rngSeed : UInt32
  inputDelay : Sides Int32
  deriving DecidableEq

/-- `MatchData()` and `MatchData::Clear`. -/
def MatchData.clear : MatchData where
  readyMessageNum := ⟨-1, -1⟩
  chara := ⟨.zero, .zero⟩
  stageID := -1
  rngSeed := 0xffffffff
  inputDelay := ⟨-1, -1⟩

def MatchData.isAllReady (d : MatchData) : Bool :=
  d.readyMessageNum.s0 ≠ -1 && d.readyMessageNum.s1 ≠ -1

/-! ## Messages -/

inductive JoinResult where
  | joinOk
  | requestInvalid
  | lobbyFull
  | nameTaken
  | hashInvalid
  | secretInvalid
  deriving DecidableEq

structure SessionJoinRequest where
  sidecarHash : Bytes
  username : Bytes
  port : UInt16
  spectator : Bool
  secret : Bytes
  deriving DecidableEq

structure LobbyReady where
  inputDelay : Int32
  ready : Bool
  serverPingMs : Int32
  directRoundTripMs : Int32
  deriving DecidableEq

/-- `LobbyReady()`. -/
def LobbyReady.default : LobbyReady := ⟨-1, true, -1, -1⟩

structure DirectOffer where
  ip : Bytes
  port : UInt16
  localIp : Bytes
  localPort : UInt16
  deriving DecidableEq

structure DirectPeer where
  ip : Bytes
  port : UInt16
  localIp : Bytes
  localPort : UInt16
  token : Bytes
  deriving DecidableEq

structure DesyncReport where
  frame : Int32
  gameplay : Bool
  flowDiffers : Bool
  inputDelay : Int32
  direct : Bool
  pingMs : Int32
  diff : Bytes
  deriving DecidableEq

structure ForwardMessage where
  src : ConnectionID
  dest : ConnectionID
  msg : Json

/-! ## Bounds -/

def charaConditionsValid (c : CharaConditions) : Bool :=
  c.charaID < CHARA_COUNT && c.costume < COSTUME_COUNT && c.color < COLOR_COUNT &&
    c.ultraCombo < ULTRA_COUNT && c.handicap == 0

def stageIDValid (stageID : Int) : Bool := 0 ≤ stageID && stageID < STAGE_COUNT

def inputDelayForRoundTrip (roundTripMs : Int32) : Int32 :=
  if roundTripMs < 0 then INPUT_DELAY_DEFAULT
  else if roundTripMs ≤ 50 then 1
  else if roundTripMs ≤ 100 then 2
  else if roundTripMs ≤ 150 then 3
  else if roundTripMs ≤ 200 then 4
  else 5

theorem charaConditionsValid_zero : charaConditionsValid .zero = true := by decide

/-! ## Ready marks -/

namespace MatchData

/-- The seat carries a ready mark. -/
def marked (d : MatchData) (side : Side) : Prop := d.readyMessageNum.get side ≠ -1

instance (d : MatchData) (side : Side) : Decidable (d.marked side) :=
  inferInstanceAs (Decidable (_ ≠ _))

theorem isAllReady_iff {d : MatchData} : d.isAllReady = true ↔ ∀ side, d.marked side := by
  simp only [isAllReady, marked, Bool.and_eq_true, decide_eq_true_eq]
  constructor
  · rintro ⟨h0, h1⟩ side
    match side with
    | 0 => exact h0
    | 1 => exact h1
  · exact fun h => ⟨h 0, h 1⟩

end MatchData

end Sf4e.Session
