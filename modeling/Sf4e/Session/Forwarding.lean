import Sf4e.Session.Runs
/-!
# Forwarding

A registered connection asks the server to pass a message on to another member.
The server looks the destination up among the members, and then answers on the
connection the message came in on: `forward_routed_iff` says when that is right.
-/
open Sf4e.Lib

namespace Sf4e.Session

namespace SessionServer

/-- A source that names this server is the sender's own id. -/
def ownSource (s : SessionServer) (conn : Conn) (fwd : ForwardMessage) : Prop :=
  fwd.src.host = s.identity → fwd.src = s.cidOf conn

instance (s : SessionServer) (conn : Conn) (fwd : ForwardMessage) : Decidable (s.ownSource conn fwd) :=
  inferInstanceAs (Decidable (_ → _))

/-- The member a message is for. -/
def destination (s : SessionServer) (fwd : ForwardMessage) : Option SessionMember :=
  s.clients.find? fun m => m.data.connId = fwd.dest

/-! ## What the branch does -/

/-- A source that names this server passes the check exactly when it is the sender's own id. -/
theorem ownSource_iff (s : SessionServer) (conn : Conn) (fwd : ForwardMessage) :
    (fwd.src.host = s.identity && fwd.src.user ≠ toDecimal conn.toNat) = false ↔ s.ownSource conn fwd := by
  obtain ⟨⟨host, user⟩, dest, msg⟩ := fwd
  rw [ownSource, cidOf, Bool.and_eq_false_iff, decide_eq_false_iff_not, decide_eq_false_iff_not, not_not,
    ConnectionID.mk.injEq, ← imp_iff_not_or]
  exact forall_congr' fun hhost => (and_iff_right hhost).symm

theorem onForward_fraud {s : SessionServer} {conn : Conn} {fwd : ForwardMessage} (hsource : ¬s.ownSource conn fwd)
    (msg : Json) : s.onForward conn msg (some fwd) = [] := by
  rw [← ownSource_iff, Bool.not_eq_false] at hsource
  exact if_pos hsource

theorem onForward_own {s : SessionServer} {conn : Conn} {fwd : ForwardMessage} (hsource : s.ownSource conn fwd)
    (msg : Json) :
    s.onForward conn msg (some fwd) =
      if s.clients.any fun m => m.data.connId = fwd.dest then [.respond conn (.forwarded msg)] else [] :=
  if_neg (by rw [(s.ownSource_iff conn fwd).2 hsource]; exact Bool.false_ne_true)

/-- Nobody has the destination's id. -/
theorem onForward_stranger {s : SessionServer} {fwd : ForwardMessage} (hdest : s.destination fwd = none) (conn : Conn)
    (msg : Json) : s.onForward conn msg (some fwd) = [] := by
  by_cases hsource : s.ownSource conn fwd
  · -- only the destination decides
    rw [onForward_own hsource, if_neg]
    rw [List.any_eq_true]
    rintro ⟨m, hm, hid⟩
    exact List.find?_eq_none.1 hdest m hm hid
  · exact onForward_fraud hsource msg

/-- Somebody has, and the sender gets its message back. -/
theorem onForward_member {s : SessionServer} {conn : Conn} {fwd : ForwardMessage} (hsource : s.ownSource conn fwd)
    {member : SessionMember} (hdest : s.destination fwd = some member) (msg : Json) :
    s.onForward conn msg (some fwd) = [.respond conn (.forwarded msg)] := by
  have hid : decide (member.data.connId = fwd.dest) = true :=
    List.find?_some (p := fun m : SessionMember => decide (m.data.connId = fwd.dest)) hdest
  rw [onForward_own hsource, if_pos]
  exact List.any_eq_true.2 ⟨member, List.mem_of_find?_eq_some hdest, hid⟩

end SessionServer

theorem handleMessage_forward {p : Stepping} {m : IncomingMsg} (hregistered : (p.server.cidMap.find m.conn).isSome)
    {msg : Json} {fwd : Option ForwardMessage} (hmsg : m.msg = .forward msg fwd) :
    handleMessage p m = (p, p.server.onForward m.conn msg fwd) := by
  obtain ⟨cid, hcid⟩ := Option.isSome_iff_exists.1 hregistered
  rw [handleMessage, hcid]
  dsimp only
  rw [handleKnown, hmsg]
  rfl

/-! ## Where it should go -/

/-- The message goes to its destination as it is and to nobody else, or to nobody at all, and the
server stays as it is. -/
structure Routed (p : Stepping) (m : IncomingMsg) (msg : Json) (fwd : ForwardMessage) : Prop where
  reaches : p.server.ownSource m.conn fwd → ∀ member ∈ p.server.destination fwd,
    (handleMessage p m).2 = [.respond member.conn (.forwarded msg)]
  stranger : p.server.destination fwd = none → (handleMessage p m).2 = []
  fraud : ¬p.server.ownSource m.conn fwd → (handleMessage p m).2 = []
  unchanged : (handleMessage p m).1 = p

/-- The message is for nobody, or for its sender. -/
def ForItself (p : Stepping) (m : IncomingMsg) (fwd : ForwardMessage) : Prop :=
  p.server.ownSource m.conn fwd → ∀ member ∈ p.server.destination fwd, member.conn = m.conn

instance (p : Stepping) (m : IncomingMsg) (fwd : ForwardMessage) : Decidable (ForItself p m fwd) :=
  inferInstanceAs (Decidable (_ → ∀ _ ∈ _, _))

theorem itself_of_routed {p : Stepping} {m : IncomingMsg} (hregistered : (p.server.cidMap.find m.conn).isSome)
    {msg : Json} {fwd : ForwardMessage} (hmsg : m.msg = .forward msg (some fwd)) (h : Routed p m msg fwd) :
    ForItself p m fwd := by
  intro hsource member hmember
  have hreaches := h.reaches hsource member hmember
  rw [handleMessage_forward hregistered hmsg, SessionServer.onForward_member hsource hmember, List.singleton_inj,
    Out.respond.injEq] at hreaches
  exact hreaches.1.symm

/-- A forward message goes where it should exactly when there is nobody it should go to, or the
sender itself. -/
theorem forward_routed_iff {p : Stepping} {m : IncomingMsg} (hregistered : (p.server.cidMap.find m.conn).isSome)
    {msg : Json} {fwd : ForwardMessage} (hmsg : m.msg = .forward msg (some fwd)) :
    Routed p m msg fwd ↔ ForItself p m fwd := by
  refine ⟨itself_of_routed hregistered hmsg, fun h => ?_⟩
  have hhandled := handleMessage_forward hregistered hmsg
  refine ⟨?_, ?_, ?_, ?_⟩
  · intro hsource member hmember
    rw [hhandled, SessionServer.onForward_member hsource hmember, h hsource member hmember]
  · intro hdest
    rw [hhandled]
    exact SessionServer.onForward_stranger hdest m.conn msg
  · intro hsource
    rw [hhandled]
    exact SessionServer.onForward_fraud hsource msg
  · rw [hhandled]

namespace Sample

/-- Connection `conn` of the first lobby. -/
def idOf (conn : Conn) : ConnectionID := ⟨ascii "sf4e-lobby-0", toDecimal conn.toNat⟩

def passOn (src dest : Conn) : ForwardMessage := ⟨idOf src, idOf dest, .bool true⟩

/-- What `src` writes to have it passed on. -/
def passOnJson (src dest : Conn) : Json :=
  jsonObj [("type", .str (ascii "forward")), ("src", (idOf src).toJson), ("dest", (idOf dest).toJson), ("msg", .bool true)]

def passedOn (src dest : Conn) : IncomingMsg := say src (.body [] (passOnJson src dest) .forward)

/-- Both players are seated. -/
def seated : Stepping := sessionServer.run (start (lobbyHost 0)) (acts twoPlayers)

end Sample

/-- A player writes to itself. -/
theorem forward_routed_self :
    Routed Sample.seated (Sample.passedOn 1 1) (Sample.passOnJson 1 1) (Sample.passOn 1 1) :=
  (forward_routed_iff (by decide +kernel) rfl).2 (by decide +kernel)

/-- A player writes to the other one. -/
theorem forward_to_the_other :
    ¬ ∀ (p : Stepping) (m : IncomingMsg), (p.server.cidMap.find m.conn).isSome → ∀ (msg : Json) (fwd : ForwardMessage),
      m.msg = .forward msg (some fwd) → Routed p m msg fwd := by
  intro h
  have hrouted := h Sample.seated (Sample.passedOn 1 2) (by decide +kernel) (Sample.passOnJson 1 2)
    (Sample.passOn 1 2) rfl
  exact absurd (itself_of_routed (by decide +kernel) rfl hrouted) (by decide +kernel)

end Sf4e.Session
