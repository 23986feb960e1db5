import Sf4e.Netplay.HolePunch
import Sf4e.Lib.Machine
/-!
# Direct play on one PC

The part of `sf4e__SessionClient` that offers an endpoint, punches a path to the
other player's and, when a match starts, decides between that path and the
relay. `DirectRun` adds where a player who has turned direct play off stands.

`off_sticks_iff`: turning it off sticks in a run exactly when it is never turned
off over a proven path.
-/
open Sf4e.Lib Sf4e.Session Sf4e.Server

namespace Sf4e.Netplay

/-! ## The client -/

def MATCH_PUNCH_MS : UInt32 := 5000
def LOBBY_PUNCH_MS : UInt32 := 900
def RETRY_GAP_MS : Int32 := 2000
def MAX_ATTEMPTS : Nat := 4
def KEEPALIVE_MS : Int32 := 2000

/-- The fields of direct play. `peer` is the other player's endpoints and the token. -/
structure DirectPlay where
  punch : HolePunch
  ggpoPort : UInt16
  directEnabled : Bool
  peer : DirectPeer
  matchIsDirect : Bool
  punchProven : Bool
  provenIp : Bytes
  provenPort : UInt16
  directRttMs : Int32
  lastKeepaliveTick : UInt32
  directAttempts : Nat
  directLastAttemptTick : UInt32

/-- What a call of `EnableDirect` meets: the clock when the gap is checked and when the attempt
is noted, the answers of `bind`, of the servers and of `Send`. -/
structure EnableCall where
  gapAt : UInt32
  attemptAt : UInt32
  bindOk : Bool
  discovery : Discovery
  sendOk : Bool

/-- What a call of `PumpDirect` meets. -/
structure PumpCall where
  checkedAt : UInt32
  sentAt : UInt32
  reads : List (SockAddr × Bytes)

namespace DirectPlay

/-- A client that has only been made. -/
def new (ggpoPort : UInt16) : DirectPlay where
  punch := .new
  ggpoPort := ggpoPort
  directEnabled := false
  peer := ⟨[], 0, [], 0, []⟩
  matchIsDirect := false
  punchProven := false
  provenIp := []
  provenPort := 0
  directRttMs := -1
  lastKeepaliveTick := 0
  directAttempts := 0
  directLastAttemptTick := 0

def directRoundTripMs (c : DirectPlay) : Int32 := if c.punchProven then c.directRttMs else -1

/-- What `EnableDirect` offers. -/
def offerOf (h : HolePunch) : DirectOffer := ⟨h.publicIp, h.publicPort, h.localIp, h.localPort⟩

/-- `EnableDirect`: whether it succeeds, and the offer it sends. -/
def enableDirect (c : DirectPlay) (e : EnableCall) : DirectPlay × Bool × Option DirectOffer :=
  if c.directEnabled then (c, true, none)
  else if c.directAttempts ≥ MAX_ATTEMPTS then (c, false, none)
  else if c.directAttempts > 0 && ticksSince e.gapAt c.directLastAttemptTick < RETRY_GAP_MS then (c, false, none)
  else
    let c := { c with directAttempts := c.directAttempts + 1, directLastAttemptTick := e.attemptAt }
    let (punch, opened) := c.punch.open_ c.ggpoPort e.bindOk
    if !opened then ({ c with punch }, false, none)
    else
      let (punch, found) := punch.discover e.discovery
      if !found then ({ c with punch := punch.close }, false, none)
      else if !e.sendOk then ({ c with punch := punch.close }, false, none)
      else ({ c with punch, directEnabled := true }, true, some (offerOf punch))

/-- `DisableDirect`. -/
def disableDirect (c : DirectPlay) : DirectPlay :=
  { c with
    directEnabled := false
    directAttempts := 0
    peer := ⟨[], 0, [], 0, []⟩
    punch := c.punch.close }

variable (inetPton : Bytes → Option UInt32)

/-- The DirectPeer branch of `Step`. -/
def onDirectPeer (c : DirectPlay) (peer : Option DirectPeer) (call : PunchCall) (provenAt : UInt32) :
    DirectPlay × List Packet :=
  match peer with
  | none => (c, [])
  | some peer =>
    if !c.directEnabled then (c, [])
    else
      let punched := c.punch.punch inetPton peer LOBBY_PUNCH_MS false call
      if punched.ok then
        ({ c with
          peer
          provenIp := punched.chosenIp
          provenPort := punched.chosenPort
          directRttMs := punched.rttMs
          punchProven := true
          lastKeepaliveTick := provenAt }, punched.sent)
      else ({ c with peer, punchProven := false }, punched.sent)

def pumpDirect (c : DirectPlay) (p : PumpCall) : DirectPlay × List Packet :=
  if !c.punchProven || !c.punch.isOpen then (c, [])
  else if ticksSince p.checkedAt c.lastKeepaliveTick < KEEPALIVE_MS then (c, [])
  else
    ({ c with lastKeepaliveTick := p.sentAt },
      c.punch.keepalive inetPton c.provenIp c.provenPort c.peer.token p.reads)

/-- The first half of `TryDirectPath`: both PCs prove the path together. -/
def proveNow (c : DirectPlay) (call : PunchCall) : DirectPlay × List Packet :=
  if c.directEnabled && c.peer.port ≠ 0 && c.punch.isOpen then
    let punched := c.punch.punch inetPton c.peer MATCH_PUNCH_MS true call
    if punched.ok then
      ({ c with
        provenIp := punched.chosenIp
        provenPort := punched.chosenPort
        directRttMs := punched.rttMs
        punchProven := true }, punched.sent)
    else ({ c with punchProven := false }, punched.sent)
  else (c, [])

/-- `TryDirectPath`. -/
def tryDirectPath (c : DirectPlay) (call : PunchCall) : DirectPlay × Bool × List Packet :=
  let (c, sent) := proveNow inetPton { c with matchIsDirect := false } call
  if c.punchProven && c.provenPort ≠ 0 then
    ({ c with
      peer := { c.peer with ip := c.provenIp, port := c.provenPort }
      punch := c.punch.close
      matchIsDirect := true
      punchProven := false
      directEnabled := false
      directAttempts := 0 }, true, sent)
  else ({ c with punch := c.punch.close, directEnabled := false, directAttempts := 0 }, false, sent)

/-- The start of a match: the endpoint GGPO is given instead of the relay's, if any. -/
def startMatch (c : DirectPlay) (call : PunchCall) : DirectPlay × Option (Bytes × UInt16) × List Packet :=
  let (c, direct, sent) := c.tryDirectPath inetPton call
  (c, if direct then some (c.peer.ip, c.peer.port) else none, sent)

/-- A Punch in the call returns true, in the lobby and at match start. -/
def lobbyPunched (c : DirectPlay) (peer : Option DirectPeer) (call : PunchCall) : Bool :=
  peer.any fun peer => c.directEnabled && (c.punch.punch inetPton peer LOBBY_PUNCH_MS false call).ok

def matchPunched (c : DirectPlay) (call : PunchCall) : Bool :=
  c.directEnabled && c.peer.port ≠ 0 && (c.punch.punch inetPton c.peer MATCH_PUNCH_MS true call).ok

end DirectPlay

/-! ## Runs -/

/-- Direct play has not been turned off, or is off, or has been turned on again without a
path proven since. -/
inductive DirectPhase where
  | on
  | off
  | offered
  deriving DecidableEq

structure DirectRun where
  client : DirectPlay
  phase : DirectPhase

inductive DirectAct where
  | enable (e : EnableCall)
  | directPeer (peer : Option DirectPeer) (call : PunchCall) (provenAt : UInt32)
  | pump (p : PumpCall)
  | startMatch (call : PunchCall)
  | disable

inductive DirectOut where
  | offer (offer : DirectOffer)
  | packet (p : Packet)
  | ggpoEndpoint (ip : Bytes) (port : UInt16)

section

variable (inetPton : Bytes → Option UInt32)

/-- Where the player stands after an action. -/
def DirectRun.phaseAfter (s : DirectRun) : DirectAct → DirectPhase
  | .enable e => if s.phase = .off && (s.client.enableDirect e).2.1 then .offered else s.phase
  | .directPeer peer call _ =>
    if s.phase = .offered && s.client.lobbyPunched inetPton peer call then .on else s.phase
  | .startMatch call => if s.phase = .offered && s.client.matchPunched inetPton call then .on else s.phase
  | .pump _ => s.phase
  | .disable => .off

/-- The client, one call at a time. -/
def directPlay : Machine DirectRun DirectAct DirectOut where
  next s a :=
    let phase := s.phaseAfter inetPton a
    match a with
    | .enable e =>
      let (client, _, offer) := s.client.enableDirect e
      (⟨client, phase⟩, offer.toList.map .offer)
    | .directPeer peer call provenAt =>
      let (client, sent) := s.client.onDirectPeer inetPton peer call provenAt
      (⟨client, phase⟩, sent.map .packet)
    | .pump p =>
      let (client, sent) := s.client.pumpDirect inetPton p
      (⟨client, phase⟩, sent.map .packet)
    | .startMatch call =>
      let (client, endpoint, sent) := s.client.startMatch inetPton call
      (⟨client, phase⟩, sent.map .packet ++ endpoint.toList.map fun e => .ggpoEndpoint e.1 e.2)
    | .disable => (⟨s.client.disableDirect, phase⟩, [])

end

/-! ## What is left of a path -/

namespace DirectPlay

/-- A path counts as proven, and either of what is kept of it shows. -/
def showsPath (c : DirectPlay) : Bool := c.punchProven && (c.directRttMs ≠ -1 || c.provenPort ≠ 0)

variable (inetPton : Bytes → Option UInt32)

/-- No round trip is reported, and a match that starts now without a Punch that returns true
goes over the relay. -/
structure Off (c : DirectPlay) : Prop where
  rtt : c.directRoundTripMs = -1
  path : ∀ call, c.matchPunched inetPton call = false → (c.tryDirectPath inetPton call).2.1 = false
  endpoint : ∀ call, c.matchPunched inetPton call = false → (c.startMatch inetPton call).2.1 = none

theorem showsPath_unproven {c : DirectPlay} (h : c.punchProven = false) : c.showsPath = false := by
  rw [showsPath, h, Bool.false_and]

theorem showsPath_enable (c : DirectPlay) (e : EnableCall) : (c.enableDirect e).1.showsPath = c.showsPath := by
  simp only [enableDirect]
  repeat' split
  all_goals rfl

theorem showsPath_pump (c : DirectPlay) (p : PumpCall) : (c.pumpDirect inetPton p).1.showsPath = c.showsPath := by
  unfold pumpDirect
  repeat' split
  all_goals rfl

/-- Without a Punch that returns true, a DirectPeer shows no more of a path. -/
theorem showsPath_directPeer {c : DirectPlay} {peer : Option DirectPeer} {call : PunchCall} (provenAt : UInt32)
    (h : c.lobbyPunched inetPton peer call = false) (hc : c.showsPath = false) :
    (c.onDirectPeer inetPton peer call provenAt).1.showsPath = false := by
  cases peer with
  | none => exact hc
  | some peer =>
    simp only [onDirectPeer]
    split
    · exact hc
    · rename_i henabled
      have hfail : (c.punch.punch inetPton peer LOBBY_PUNCH_MS false call).ok = false := by
        simpa [lobbyPunched, (by simpa using henabled : c.directEnabled = true)] using h
      rw [hfail]
      exact showsPath_unproven rfl

/-- Without a Punch that returns true, the first half of `TryDirectPath` proves nothing. -/
theorem proveNow_unpunched {c : DirectPlay} {call : PunchCall} (h : c.matchPunched inetPton call = false) :
    (c.proveNow inetPton call).1 = { c with punchProven := false } ∨ (c.proveNow inetPton call).1 = c := by
  unfold proveNow
  split
  · rename_i hguard
    simp only [Bool.and_eq_true] at hguard
    have hfail : (c.punch.punch inetPton c.peer MATCH_PUNCH_MS true call).ok = false := by
      simpa only [matchPunched, hguard.1.1, hguard.1.2, Bool.true_and] using h
    left
    dsimp only
    rw [hfail]
    rfl
  · exact .inr rfl

theorem tryDirectPath_unpunched {c : DirectPlay} {call : PunchCall} (h : c.matchPunched inetPton call = false)
    (hc : c.showsPath = false) :
    (c.tryDirectPath inetPton call).2.1 = false ∧ (c.tryDirectPath inetPton call).1.showsPath = false := by
  have hstart : matchPunched inetPton { c with matchIsDirect := false } call = false := h
  have hkept : ∀ c' : DirectPlay, c'.punchProven = false ∨ c'.showsPath = false →
      (c'.punchProven && decide (c'.provenPort ≠ 0)) = false := by
    rintro c' (hproven | hshows)
    · rw [hproven, Bool.false_and]
    · revert hshows
      simp only [showsPath]
      cases c'.punchProven <;> simp
  simp only [tryDirectPath]
  rcases proveNow_unpunched inetPton hstart with hp | hp
  · rw [hp, hkept _ (.inl rfl)]
    exact ⟨rfl, showsPath_unproven rfl⟩
  · rw [hp, hkept _ (.inr hc)]
    exact ⟨rfl, hc⟩

theorem off_of_showsPath {c : DirectPlay} (hc : c.showsPath = false) : c.Off inetPton where
  rtt := by
    revert hc
    simp only [showsPath, directRoundTripMs]
    cases c.punchProven <;> simp +contextual
  path call h := (tryDirectPath_unpunched inetPton h hc).1
  endpoint call h := by
    simp only [startMatch]
    rw [(tryDirectPath_unpunched inetPton h hc).1]
    rfl

/-- What is off after `DisableDirect` showed no path before it. -/
theorem showsPath_of_off {c : DirectPlay} (h : c.disableDirect.Off inetPton) : c.showsPath = false := by
  have hrtt : (if c.punchProven then c.directRttMs else -1) = -1 := h.rtt
  have hpath : (c.disableDirect.tryDirectPath inetPton ⟨0, []⟩).2.1 = false := h.path ⟨0, []⟩ rfl
  have hclosed : (c.disableDirect.tryDirectPath inetPton ⟨0, []⟩).2.1 = (c.punchProven && decide (c.provenPort ≠ 0)) := by
    simp only [tryDirectPath, proveNow, disableDirect, Bool.false_and, Bool.false_eq_true, if_false]
    split
    · rename_i hgo
      exact hgo.symm
    · rename_i hstay
      simpa using hstay
  rw [hclosed] at hpath
  revert hrtt hpath
  simp only [showsPath]
  cases c.punchProven <;> simp +contextual

end DirectPlay

/-! ## Every run -/

/-- Turned off, it is not enabled; and until it is proven again, no path shows. -/
structure DirectRun.Quiet (s : DirectRun) : Prop where
  disabled : s.phase = .off → s.client.directEnabled = false
  pathless : s.phase ≠ .on → s.client.showsPath = false

section

variable (inetPton : Bytes → Option UInt32)

/-- While direct play is off, nothing of it is left. -/
def StaysOff (s : DirectRun) (a : DirectAct) : Prop :=
  ((directPlay inetPton).next s a).1.phase ≠ .on → ((directPlay inetPton).next s a).1.client.Off inetPton

/-- Direct play is not turned off over a proven path. -/
def NotOverPath (s : DirectRun) (a : DirectAct) : Prop := a = .disable → s.client.showsPath = false

/-- Where a player still is not on, no Punch has returned true. -/
theorem unpunched {s : DirectRun} (h : s.Quiet) {ok : Bool} (henabled : ok = true → s.client.directEnabled = true)
    (hphase : (if s.phase = .offered && ok then DirectPhase.on else s.phase) ≠ .on) : s.phase ≠ .on ∧ ok = false := by
  cases hok : ok with
  | false =>
    rw [hok, Bool.and_false] at hphase
    exact ⟨hphase, rfl⟩
  | true =>
    exfalso
    rw [hok, Bool.and_true] at hphase
    cases hs : s.phase with
    | on => rw [hs] at hphase; exact hphase rfl
    | offered => rw [hs] at hphase; exact hphase rfl
    | off =>
      have hon := henabled hok
      rw [h.disabled hs] at hon
      cases hon

/-- Only a player that was off is off after a Punch. -/
theorem off_before {phase : DirectPhase} {ok : Bool}
    (hphase : (if phase = .offered && ok then DirectPhase.on else phase) = .off) : phase = .off := by
  split at hphase
  · cases hphase
  · exact hphase

theorem quiet_enable {s : DirectRun} (h : s.Quiet) (e : EnableCall) :
    DirectRun.Quiet ((directPlay inetPton).next s (.enable e)).1 where
  disabled := by
    intro hoff
    have hphase : (if s.phase = .off && (s.client.enableDirect e).2.1 then DirectPhase.offered else s.phase) = .off := hoff
    show (s.client.enableDirect e).1.directEnabled = false
    split at hphase
    · cases hphase
    · rename_i hrefused
      -- an EnableDirect that fails leaves it off
      have hbefore := h.disabled hphase
      have hfails : (s.client.enableDirect e).2.1 = false := by
        rw [hphase] at hrefused
        simpa using hrefused
      revert hfails
      simp only [DirectPlay.enableDirect, hbefore]
      repeat' split
      all_goals simp_all
  pathless := by
    intro hon
    have hphase : (if s.phase = .off && (s.client.enableDirect e).2.1 then DirectPhase.offered else s.phase) ≠ .on := hon
    show (s.client.enableDirect e).1.showsPath = false
    rw [DirectPlay.showsPath_enable]
    refine h.pathless fun hbefore => ?_
    rw [hbefore] at hphase
    exact hphase rfl

theorem quiet_directPeer {s : DirectRun} (h : s.Quiet) (peer : Option DirectPeer) (call : PunchCall) (provenAt : UInt32) :
    DirectRun.Quiet ((directPlay inetPton).next s (.directPeer peer call provenAt)).1 where
  disabled := by
    intro hoff
    have hkept : (s.client.onDirectPeer inetPton peer call provenAt).1.directEnabled = s.client.directEnabled := by
      simp only [DirectPlay.onDirectPeer]
      repeat' split
      all_goals rfl
    exact hkept.trans (h.disabled (off_before hoff))
  pathless := by
    intro hon
    have henabled : s.client.lobbyPunched inetPton peer call = true → s.client.directEnabled = true := by
      intro hok
      cases peer with
      | none => cases hok
      | some peer => exact (Bool.and_eq_true_iff.1 hok).1
    obtain ⟨hbefore, hfails⟩ := unpunched h henabled hon
    exact DirectPlay.showsPath_directPeer inetPton provenAt hfails (h.pathless hbefore)

theorem quiet_startMatch {s : DirectRun} (h : s.Quiet) (call : PunchCall) :
    DirectRun.Quiet ((directPlay inetPton).next s (.startMatch call)).1 where
  disabled := by
    intro _
    show (s.client.startMatch inetPton call).1.directEnabled = false
    simp only [DirectPlay.startMatch, DirectPlay.tryDirectPath]
    split <;> rfl
  pathless := by
    intro hon
    have henabled : s.client.matchPunched inetPton call = true → s.client.directEnabled = true := by
      intro hok
      simp only [DirectPlay.matchPunched, Bool.and_eq_true] at hok
      exact hok.1.1
    obtain ⟨hbefore, hfails⟩ := unpunched h henabled hon
    exact (DirectPlay.tryDirectPath_unpunched inetPton hfails (h.pathless hbefore)).2

theorem quiet_pump {s : DirectRun} (h : s.Quiet) (p : PumpCall) :
    DirectRun.Quiet ((directPlay inetPton).next s (.pump p)).1 where
  disabled := by
    intro hoff
    have hkept : (s.client.pumpDirect inetPton p).1.directEnabled = s.client.directEnabled := by
      unfold DirectPlay.pumpDirect
      repeat' split
      all_goals rfl
    exact hkept.trans (h.disabled hoff)
  pathless := by
    intro hon
    exact (DirectPlay.showsPath_pump inetPton s.client p).trans (h.pathless hon)

theorem quiet_next {s : DirectRun} (h : s.Quiet) {a : DirectAct} (ha : NotOverPath s a) :
    ((directPlay inetPton).next s a).1.Quiet := by
  cases a with
  | enable e => exact quiet_enable inetPton h e
  | directPeer peer call provenAt => exact quiet_directPeer inetPton h peer call provenAt
  | pump p => exact quiet_pump inetPton h p
  | startMatch call => exact quiet_startMatch inetPton h call
  | disable => exact ⟨fun _ => rfl, fun _ => ha rfl⟩

/-- Of a quiet player, a step keeps direct play off exactly when it does not turn it off over a path. -/
theorem staysOff_iff {s : DirectRun} (h : s.Quiet) (a : DirectAct) : NotOverPath s a ↔ StaysOff inetPton s a := by
  constructor
  · intro ha hoff
    exact DirectPlay.off_of_showsPath inetPton ((quiet_next inetPton h ha).pathless hoff)
  · rintro hoff rfl
    exact DirectPlay.showsPath_of_off inetPton (hoff (by show DirectPhase.off ≠ .on; decide))

/-- In exactly the runs in which direct play is never turned off over a proven path, turning it
off sticks: no round trip is reported and no match goes direct until it is on again. -/
theorem off_sticks_iff (ggpoPort : UInt16) (as : List DirectAct) :
    (directPlay inetPton).Meets (fun _ => StaysOff inetPton) ⟨.new ggpoPort, .on⟩ [] as ↔
      (directPlay inetPton).Meets (fun _ => NotOverPath) ⟨.new ggpoPort, .on⟩ [] as := by
  have hstart : DirectRun.Quiet ⟨.new ggpoPort, .on⟩ := ⟨nofun, fun hon => absurd rfl hon⟩
  refine Machine.meets_iff_of_inv (·.Quiet) (fun s a h => (staysOff_iff inetPton h a).symm) (fun s a h ha => ?_) hstart
  exact quiet_next inetPton h ha

end

namespace Sample

/-- `inet_pton`, of one address. -/
def inetPton (ip : Bytes) : Option UInt32 := if ip = ascii "1.2.3.4" then some 0x01020304 else none

def opponent : DirectPeer := ⟨ascii "1.2.3.4", 4000, [], 0, ascii "00"⟩

/-- The matchmaker answers, and the offer goes out. -/
def enabling : EnableCall := ⟨0, 0, true, ⟨some (ascii "5.6.7.8", some 5000), none, none⟩, true⟩

/-- One turn of the loop, at a standing clock. -/
def turn (read : Read) : Round := ⟨0, 0, 0, 0, 0, read, 0, 0, 0⟩

/-- The opponent answers the first probe. -/
def answered : PunchCall := ⟨0, [turn (.datagram ⟨0x01020304, 4000⟩ (PUNCH_MAGIC ++ ascii "A" ++ ascii "00"))]⟩

/-- A path is proven in the lobby, and then direct play is turned off. -/
def turnedOff : List DirectAct := [.enable enabling, .directPeer (some opponent) answered 0, .disable]

end Sample

/-- After it is turned off, the next match still starts at the opponent's address. -/
theorem off_goes_direct :
    ¬ ∀ (inetPton : Bytes → Option UInt32) (ggpoPort : UInt16) (as : List DirectAct),
      (directPlay inetPton).Meets (fun _ => StaysOff inetPton) ⟨.new ggpoPort, .on⟩ [] as := by
  intro h
  obtain ⟨-, -, hoff, -⟩ := h Sample.inetPton 23457 Sample.turnedOff
  have hrelay := (hoff (by decide +kernel)).endpoint ⟨0, []⟩ (by decide +kernel)
  exact absurd hrelay (by decide +kernel)

end Sf4e.Netplay
