import Sf4e.Server.Admission
/-!
# The table of lobbies

Active lobbies have codes of their own, inactive ones nothing at all, and no address
holds more than two. A lobby is given up by the housekeeping, when it is old or no tick
of the last 90 s has seen anyone in it, or by its own address, which asks for another
while it is empty.
-/
open Sf4e.Lib Sf4e.Session

namespace Sf4e.Server

/-- Six characters of the alphabet. -/
structure Shaped (code : Bytes) : Prop where
  length : code.length = 6
  letters : ∀ c ∈ code, c ∈ CODE_ALPHABET

/-- No two active lobbies have one code. -/
def CodesApart (lobbies : List Lobby) : Prop :=
  ∀ (i j : Nat) (l m : Lobby), lobbies[i]? = some l → lobbies[j]? = some m → l.active = true → m.active = true →
    l.code = m.code → i = j

def Lobby.createdBy (ip : UInt32) (l : Lobby) : Bool := l.active && l.creatorIp = ip

/-- The lobby is free and bare. -/
structure Lobby.Cleared (l : Lobby) : Prop where
  code : l.code = []
  secret : l.secret = []
  hash : l.hash = []
  title : l.title = []
  empty : l.server.server.clients = []

structure TableOk (s : LobbyServer) : Prop where
  apart : CodesApart s.lobbies
  shaped : ∀ l ∈ s.lobbies, l.active = true → Shaped l.code
  cleared : ∀ l ∈ s.lobbies, l.active = false → l.Cleared
  cap : ∀ ip, s.lobbies.countP (·.createdBy ip) ≤ 2

/-! ## Why a lobby is given up -/

/-- The request that opened the lobby last. -/
def opening (h : History) (i : Nat) : Option Datagram :=
  match h with
  | [] => none
  | t :: h =>
    match t.act with
    | .datagram d => if openedAt t.out = some i then some d else opening h i
    | _ => opening h i

/-- Somebody is in lobby `i`. -/
def LobbyServer.occupied (s : LobbyServer) (i : Nat) : Bool := (s.lobbies[i]?).any fun l => l.memberCount > 0

/-- When the lobby was opened, or the latest tick after that that saw somebody in it. -/
def lastSeen (h : History) (i : Nat) : Option UInt64 :=
  match h with
  | [] => none
  | t :: h =>
    match t.act with
    | .datagram d => if openedAt t.out = some i then some d.now else lastSeen h i
    | .housekeeping j now _ => if j = i && t.pre.occupied i then some now else lastSeen h i
    | _ => lastSeen h i

/-- Why an active lobby may become inactive. -/
inductive GivenUp (parse : Bytes → Option Json) (h : History) (i : Nat) (l : Lobby) : Input → Prop where
  | unseen {now t : UInt64} {time : Int} (hempty : l.memberCount = 0) (hseen : lastSeen h i = some t)
      (hlong : now - t > 90 * 1000) : GivenUp parse h i l (.housekeeping i now time)
  | old {now : UInt64} {time : Int} {d : Datagram} (hopen : opening h i = some d)
      (hlong : now - d.now > 12 * 3600 * 1000) : GivenUp parse h i l (.housekeeping i now time)
  | own {d d₀ : Datagram} {req : Json} {r : CreateRequest} (hempty : l.memberCount = 0) (hopen : opening h i = some d₀)
      (hip : d₀.ip = d.ip) (hasks : AsksCreate parse d req r) : GivenUp parse h i l (.datagram d)

/-- An active lobby that is logged as released, or inactive afterwards, is given up. -/
def ReleasedFor (parse : Bytes → Option Json) (h : History) (s : LobbyServer) (input : Input) : Prop :=
  ∀ (i : Nat) (l : Lobby), s.lobbies[i]? = some l → l.active = true →
    ((∃ time, .logStat (.lobbyReleased i) time ∈ ((lobbyServer parse).next s input).2) ∨
      ∃ l', ((lobbyServer parse).next s input).1.lobbies[i]? = some l' ∧ l'.active = false) →
    GivenUp parse h i l input

/-! ## Codes -/

theorem shaped_draw (d : CodeDraw) : Shaped d.text := by
  refine ⟨(List.length_map _).trans d.length_eq, fun c hc => ?_⟩
  obtain ⟨i, -, rfl⟩ := List.mem_map.1 hc
  have hlt : i.val < CODE_ALPHABET.length := i.isLt
  rw [List.getD_eq_getElem _ _ hlt]
  exact List.getElem_mem hlt

theorem newCode_apart {lobbies : List Lobby} {codes : List CodeDraw} {code : Bytes}
    (h : newCode lobbies codes = some code) : ∀ l ∈ lobbies, l.active = true → l.code ≠ code := by
  intro l hl hon heq
  have := List.find?_some h
  simp only [Bool.not_eq_true', List.any_eq_false, Bool.and_eq_true, decide_eq_true_eq, not_and] at this
  exact this l hl hon heq

/-- Lobbies that were active before, under the same code. -/
theorem CodesApart.kept {lobbies lobbies' : List Lobby} (h : CodesApart lobbies)
    (hk : ∀ (i : Nat) (l' : Lobby), lobbies'[i]? = some l' → l'.active = true →
      ∃ l, lobbies[i]? = some l ∧ l.active = true ∧ l.code = l'.code) : CodesApart lobbies' := by
  intro i j l' m' hl' hm' hon hon' heq
  obtain ⟨l, hl, hlon, hlcode⟩ := hk i l' hl' hon
  obtain ⟨m, hm, hmon, hmcode⟩ := hk j m' hm' hon'
  exact h i j l m hl hm hlon hmon (hlcode.trans (heq.trans hmcode.symm))

/-- One lobby gets a code that no other has. -/
theorem CodesApart.set {lobbies : List Lobby} (h : CodesApart lobbies) (k : Nat) {e : Lobby}
    (hnew : ∀ l ∈ lobbies, l.active = true → l.code ≠ e.code) : CodesApart (lobbies.set k e) := by
  intro i j l m hl hm hon hon' heq
  rw [List.getElem?_set] at hl hm
  split at hl <;> split at hm
  · rename_i hi hj
    exact hi.symm.trans hj
  · split at hl
    · cases hl
      exact absurd heq.symm (hnew m (List.mem_of_getElem? hm) hon')
    · cases hl
  · split at hm
    · cases hm
      exact absurd heq (hnew l (List.mem_of_getElem? hl) hon)
    · cases hm
  · exact h i j l m hl hm hon hon' heq

/-! ## Counting -/

/-- After the release, an address holds what it held with somebody in it. -/
theorem countP_yielded (s : LobbyServer) (d : Datagram) :
    (s.yielded d).countP (·.createdBy d.ip) = LobbyServer.heldBy s.lobbies d.ip := by
  unfold LobbyServer.yielded LobbyServer.heldBy
  rw [List.countP_map]
  apply List.countP_congr
  intro l _
  rcases yield_cases l d with ⟨hown, heq⟩ | ⟨hown, heq⟩
  · simp only [Lobby.ownEmpty, Bool.and_eq_true, decide_eq_true_eq] at hown
    have hoff : (l.reset d.now d.time).1.active = false := rfl
    simp [Lobby.createdBy, heq, hoff, hown.2]
  · have hnot : ¬((l.active = true ∧ l.creatorIp = d.ip) ∧ l.memberCount = 0) := by
      simpa [Lobby.ownEmpty] using hown
    simp only [Function.comp_apply, heq, Lobby.createdBy, Bool.and_eq_true, decide_eq_true_eq]
    constructor
    · exact fun h => ⟨h, fun h0 => hnot ⟨h, h0⟩⟩
    · exact fun h => h.1

/-! ## One step of the table -/

/-- The lobby was open before, the same one. -/
structure StaysOpen (l l' : Lobby) : Prop where
  active : l.active = true
  code : l.code = l'.code
  creator : l.creatorIp = l'.creatorIp
  created : l.createdAt = l'.createdAt

theorem LobbyStep.staysOpen {parse : Bytes → Option Json} {i : Nat} {l l' : Lobby} {input : Input}
    (h : LobbyStep parse i l input l') (hon : l'.active = true) : StaysOpen l l' := by
  cases h with
  | same => exact ⟨hon, rfl, rfl, rfl⟩
  | acts => exact ⟨hon, rfl, rfl, rfl⟩
  | seen hactive => exact ⟨hactive, rfl, rfl, rfl⟩
  | expires => cases hon
  | yields => cases hon

/-- Every lobby that is open was, or one is opened. -/
theorem kept_or_opened (parse : Bytes → Option Json) {s : LobbyServer} (hs : Indexed s) (input : Input) :
    (∀ (i : Nat) (l' : Lobby), ((lobbyServer parse).next s input).1.lobbies[i]? = some l' → l'.active = true →
        ∃ l, s.lobbies[i]? = some l ∧ StaysOpen l l') ∨
      ∃ d r k l code, input = .datagram d ∧ LobbyServer.heldBy s.lobbies d.ip < MAX_LOBBIES_PER_IP ∧
        (s.yielded d)[k]? = some l ∧ l.active = false ∧ newCode (s.yielded d) d.codes = some code ∧
        ((lobbyServer parse).next s input).1.lobbies = (s.yielded d).set k (LobbyServer.activate l r code d).1 := by
  by_cases hopen : openedAt ((lobbyServer parse).next s input).2 = none
  · refine .inl fun i l' hl' hon => ?_
    obtain ⟨l, hl, ⟨-, hstep⟩ | ⟨hi, -⟩⟩ := stepped_from parse hs input hl'
    · exact ⟨l, hl, hstep.staysOpen hon⟩
    · rw [hopen] at hi
      cases hi
  · obtain ⟨d, rfl⟩ := opened_by_datagram hopen
    have hserved := LobbyServer.served parse s d
    have hnext : (lobbyServer parse).next s (.datagram d) = s.serveMatchmaker parse d := rfl
    rw [hnext] at hopen ⊢
    generalize (s.serveMatchmaker parse d).1.lobbies = lobbies at hserved
    generalize (s.serveMatchmaker parse d).2 = out at hserved hopen
    cases hserved with
    | full =>
      rw [openedAt_append, openedAt_yieldOut] at hopen
      exact absurd rfl hopen
    | create hasks hcap hl hfree hcode => exact .inr ⟨d, _, _, _, _, rfl, hcap, hl, hfree, hcode, rfl⟩
    | _ => exact absurd rfl hopen

theorem places_yielded (s : LobbyServer) (d : Datagram) (i : Nat) {l' : Lobby} (hl' : (s.yielded d)[i]? = some l')
    (hon : l'.active = true) : ∃ l, s.lobbies[i]? = some l ∧ StaysOpen l l' := by
  rw [getElem?_yielded] at hl'
  obtain ⟨l, hl, rfl⟩ := Option.map_eq_some_iff.1 hl'
  refine ⟨l, hl, ?_⟩
  rcases yield_cases l d with ⟨-, heq⟩ | ⟨-, heq⟩ <;> rw [heq] at hon ⊢
  · cases hon
  · exact ⟨hon, rfl, rfl, rfl⟩

theorem apart_next (parse : Bytes → Option Json) {s : LobbyServer} (hs : Indexed s) (h : CodesApart s.lobbies)
    (input : Input) : CodesApart ((lobbyServer parse).next s input).1.lobbies := by
  rcases kept_or_opened parse hs input with hk | ⟨d, r, k, l, code, rfl, -, -, -, hcode, heq⟩
  · apply h.kept
    intro i l' hl' hon
    obtain ⟨l, hl, hstays⟩ := hk i l' hl' hon
    exact ⟨l, hl, hstays.active, hstays.code⟩
  · rw [heq]
    have hyield : CodesApart (s.yielded d) := by
      apply h.kept
      intro i l' hl' hon
      obtain ⟨l, hl, hstays⟩ := places_yielded s d i hl' hon
      exact ⟨l, hl, hstays.active, hstays.code⟩
    exact hyield.set k (newCode_apart hcode)

theorem cap_next (parse : Bytes → Option Json) {s : LobbyServer} (hs : Indexed s)
    (h : ∀ ip, s.lobbies.countP (·.createdBy ip) ≤ 2) (input : Input) (ip : UInt32) :
    ((lobbyServer parse).next s input).1.lobbies.countP (·.createdBy ip) ≤ 2 := by
  have hplaces : ∀ {lobbies : List Lobby}, lobbies.length = s.lobbies.length →
      (∀ (i : Nat) (l' : Lobby), lobbies[i]? = some l' → l'.active = true → ∃ l, s.lobbies[i]? = some l ∧ StaysOpen l l') →
      lobbies.countP (·.createdBy ip) ≤ s.lobbies.countP (·.createdBy ip) := by
    intro lobbies hlen hk
    apply countP_le_of_places hlen
    intro i l' hl' hp
    simp only [Lobby.createdBy, Bool.and_eq_true, decide_eq_true_eq] at hp ⊢
    obtain ⟨l, hl, hstays⟩ := hk i l' hl' hp.1
    exact ⟨l, hl, hstays.active, hstays.creator.trans hp.2⟩
  rcases kept_or_opened parse hs input with hk | ⟨d, r, k, l, code, rfl, hheld, hl, hfree, -, heq⟩
  · exact Nat.le_trans (hplaces (length_next parse s input) hk) (h ip)
  · have hyield : (s.yielded d).countP (·.createdBy ip) ≤ s.lobbies.countP (·.createdBy ip) :=
      hplaces (List.length_map _) fun i l' hl' hon => places_yielded s d i hl' hon
    have hlt := (List.getElem?_eq_some_iff.1 hl).1
    rw [heq, List.countP_set hlt]
    by_cases hip : d.ip = ip
    · -- the address of the request holds fewer than two with somebody in them
      subst hip
      rw [countP_yielded]
      have hcap : MAX_LOBBIES_PER_IP = 2 := rfl
      split <;> split <;> omega
    · have hother : ((LobbyServer.activate l r code d).1).createdBy ip = false := by
        have : ((LobbyServer.activate l r code d).1).creatorIp = d.ip := rfl
        simp [Lobby.createdBy, this, hip]
      rw [hother]
      have := h ip
      have := hyield
      split <;> simp only [Bool.false_eq_true, if_false] <;> omega

/-! ## The record of one lobby -/

/-- What the lobby has of its latest opening. -/
structure Recorded (h : History) (i : Nat) (l : Lobby) : Prop where
  shaped : l.active = true → Shaped l.code
  bare : l.active = false → l.code = [] ∧ l.hash = [] ∧ l.title = []
  opened : l.active = true → ∃ d, opening h i = some d ∧ l.createdAt = d.now ∧ l.creatorIp = d.ip
  seen : l.active = true → lastSeen h i = some l.lastNonEmpty

theorem opening_cons {t : Taken LobbyServer Input Output} {h : History} {i : Nat} (hne : openedAt t.out ≠ some i) :
    opening (t :: h) i = opening h i := by
  simp only [opening]
  split
  · rw [if_neg hne]
  · rfl

theorem lastSeen_cons {t : Taken LobbyServer Input Output} {h : History} {i : Nat} (hne : openedAt t.out ≠ some i)
    (hno : ∀ now time, t.act = .housekeeping i now time → t.pre.occupied i = false) :
    lastSeen (t :: h) i = lastSeen h i := by
  simp only [lastSeen]
  split
  · rw [if_neg hne]
  · rename_i j now time hact
    by_cases hj : j = i
    · subst hj
      rw [hno now time hact, Bool.and_false, if_neg Bool.false_ne_true]
    · simp only [hj, decide_false, Bool.false_and, Bool.false_eq_true, if_false]
  · rfl

theorem occupied_eq {s : LobbyServer} {i : Nat} {l : Lobby} (hl : s.lobbies[i]? = some l) :
    s.occupied i = decide (l.memberCount > 0) := by
  simp only [LobbyServer.occupied, hl, Option.any_some]

theorem recorded_next (parse : Bytes → Option Json) {h : History} {s : LobbyServer} (hg : AllGated parse h s)
    (hr : ∀ (i : Nat) (l : Lobby), s.lobbies[i]? = some l → Recorded h i l) (input : Input) (i : Nat) (l' : Lobby)
    (hl' : ((lobbyServer parse).next s input).1.lobbies[i]? = some l') :
    Recorded ((lobbyServer parse).taken s input :: h) i l' := by
  obtain ⟨l, hl, ⟨hopen, hstep⟩ | ⟨hopen, hopens⟩⟩ := stepped_from parse hg.indexed input hl'
  · have hrec := hr i l hl
    have hopening : opening ((lobbyServer parse).taken s input :: h) i = opening h i := opening_cons hopen
    have hsame : (∀ now time, input = .housekeeping i now time → s.occupied i = false) →
        Recorded ((lobbyServer parse).taken s input :: h) i l := fun hno =>
      { shaped := hrec.shaped
        bare := hrec.bare
        opened := by rw [hopening]; exact hrec.opened
        seen := by rw [lastSeen_cons hopen hno]; exact hrec.seen }
    cases hstep with
    | same hno =>
      apply hsame
      intro now time heq
      rw [occupied_eq hl, decide_eq_false_iff_not, Nat.not_lt]
      by_cases hon : l'.active = true
      · exact Nat.le_of_eq (hno now time heq hon)
      · rw [Lobby.memberCount, ((hg.gated i l' hl).inactive (Bool.eq_false_iff.2 hon)).2]
        exact Nat.le_refl 0
    | @acts _ a hact =>
      have hrest := hsame fun now time heq => by
        subst heq
        cases hact
      exact ⟨hrest.shaped, hrest.bare, hrest.opened, hrest.seen⟩
    | @seen now time hactive hin =>
      refine ⟨hrec.shaped, hrec.bare, ?_, fun _ => ?_⟩
      · rw [hopening]
        exact hrec.opened
      · have hocc : s.occupied i = true := by rw [occupied_eq hl]; exact decide_eq_true hin
        simp only [lastSeen, Machine.taken, hocc, decide_true, Bool.and_true, if_true]
    | expires => exact ⟨fun hc => (by cases hc), fun _ => ⟨rfl, rfl, rfl⟩, fun hc => (by cases hc), fun hc => by cases hc⟩
    | yields => exact ⟨fun hc => (by cases hc), fun _ => ⟨rfl, rfl, rfl⟩, fun hc => (by cases hc), fun hc => by cases hc⟩
  · cases hopens with
    | @create d req r code hasks hfree hcode =>
      refine ⟨fun _ => ?_, fun hc => (by cases hc), fun _ => ⟨d, ?_, rfl, rfl⟩, fun _ => ?_⟩
      · obtain ⟨draw, -, rfl⟩ := List.mem_map.1 hcode
        exact shaped_draw draw
      · simp only [opening, Machine.taken, hopen, if_true]
      · simp only [lastSeen, Machine.taken, hopen, if_true]
        rfl

/-! ## What is logged as released -/

theorem released_reset {l : Lobby} {now : UInt64} {time : Int} {i : Nat} {ts : Int}
    (h : .logStat (.lobbyReleased i) ts ∈ (l.reset now time).2) : i = l.index ∧ l.active = true := by
  simp only [Lobby.reset, Lobby.host, List.mem_append, List.mem_cons, List.mem_map, reduceCtorEq, and_false,
    exists_false, or_false] at h
  cases hon : l.active with
  | true =>
    rw [hon, if_pos rfl, List.mem_singleton] at h
    injection h with hstat
    injection hstat with hi
    exact ⟨hi, rfl⟩
  | false =>
    rw [hon] at h
    cases h

/-- A released lobby has expired, or is its address's own and empty. -/
inductive Frees (parse : Bytes → Option Json) (i : Nat) (l : Lobby) : Input → Prop where
  | expires {now : UInt64} {time : Int} (hexp : l.expired now) : Frees parse i l (.housekeeping i now time)
  | yields {d : Datagram} {req : Json} {r : CreateRequest} (hasks : AsksCreate parse d req r)
      (hown : l.ownEmpty d.ip = true) : Frees parse i l (.datagram d)

theorem frees_of_yieldOut {parse : Bytes → Option Json} {s : LobbyServer} (hs : Indexed s) {d : Datagram} {req : Json}
    {r : CreateRequest} (hasks : AsksCreate parse d req r) {i : Nat} {l : Lobby} (hl : s.lobbies[i]? = some l)
    {ts : Int} (h : .logStat (.lobbyReleased i) ts ∈ s.yieldOut d) : Frees parse i l (.datagram d) := by
  obtain ⟨e, he, h⟩ := List.mem_flatMap.1 h
  rcases yield_cases e d with ⟨hown, heq⟩ | ⟨-, heq⟩ <;> rw [heq] at h
  · obtain ⟨j, hj⟩ := List.getElem?_of_mem he
    obtain rfl : i = j := (released_reset h).1.trans (hs j e hj)
    obtain rfl : l = e := Option.some.inj (hl.symm.trans hj)
    exact .yields hasks hown
  · cases h

theorem no_release_activate {l : Lobby} {r : CreateRequest} {code : Bytes} {d : Datagram} {i : Nat} {ts : Int} :
    .logStat (.lobbyReleased i) ts ∉ (LobbyServer.activate l r code d).2 := by
  simp [LobbyServer.activate, Lobby.host]

theorem frees_of_log (parse : Bytes → Option Json) {s : LobbyServer} (hs : Indexed s) {input : Input} {i : Nat}
    {l : Lobby} (hl : s.lobbies[i]? = some l) {ts : Int}
    (h : .logStat (.lobbyReleased i) ts ∈ ((lobbyServer parse).next s input).2) : Frees parse i l input := by
  have hacts : ∀ index a, .logStat (.lobbyReleased i) ts ∉ (s.onLobby index fun l => l.act a).2 := by
    intro index a
    unfold LobbyServer.onLobby
    cases s.lobbies[index]? with
    | none => simp
    | some e => simp [Lobby.act]
  cases input with
  | message index m => exact absurd h (hacts _ _)
  | endStep index tick => exact absurd h (hacts _ _)
  | connecting index conn ip ok => exact absurd h (hacts _ _)
  | closed index conn was => exact absurd h (hacts _ _)
  | housekeeping index now time =>
    have hout : .logStat (.lobbyReleased i) ts ∈ (s.onLobby index fun l => l.housekeeping now time).2 := h
    unfold LobbyServer.onLobby at hout
    cases he : s.lobbies[index]? with
    | none =>
      rw [he] at hout
      cases hout
    | some e =>
      rw [he] at hout
      dsimp only at hout
      rcases housekeeping_cases e now time with ⟨-, heq⟩ | ⟨-, -, heq⟩ | ⟨-, hexp, heq⟩ <;> rw [heq] at hout
      · cases hout
      · cases hout
      · obtain rfl : i = index := (released_reset hout).1.trans (hs index e he)
        obtain rfl : l = e := Option.some.inj (hl.symm.trans he)
        exact .expires hexp
  | datagram d =>
    have hserved := LobbyServer.served parse s d
    have hout : .logStat (.lobbyReleased i) ts ∈ (s.serveMatchmaker parse d).2 := h
    generalize (s.serveMatchmaker parse d).1.lobbies = lobbies at hserved
    generalize (s.serveMatchmaker parse d).2 = out at hserved hout
    cases hserved with
    | full hasks =>
      rcases List.mem_append.1 hout with hout | hout
      · exact frees_of_yieldOut hs hasks hl hout
      · simp at hout
    | create hasks =>
      rcases List.mem_append.1 hout with hout | hout
      · rcases List.mem_append.1 hout with hout | hout
        · exact frees_of_yieldOut hs hasks hl hout
        · exact absurd hout no_release_activate
      · simp at hout
    | _ => simp at hout

theorem givenUp_of_frees {parse : Bytes → Option Json} {h : History} {i : Nat} {l : Lobby} (hr : Recorded h i l)
    (hon : l.active = true) {input : Input} (hf : Frees parse i l input) : GivenUp parse h i l input := by
  obtain ⟨d₀, hopen, hat, hip⟩ := hr.opened hon
  cases hf with
  | expires hexp =>
    rcases hexp with ⟨hempty, hlong⟩ | hlong
    · exact .unseen hempty (hr.seen hon) hlong
    · exact .old hopen (hat ▸ hlong)
  | yields hasks hown =>
    simp only [Lobby.ownEmpty, Bool.and_eq_true, decide_eq_true_eq] at hown
    exact .own hown.2 hopen (hip.symm.trans hown.1.2) hasks

theorem releasedFor (parse : Bytes → Option Json) {h : History} {s : LobbyServer} (hs : Indexed s)
    (hr : ∀ (i : Nat) (l : Lobby), s.lobbies[i]? = some l → Recorded h i l) (input : Input) :
    ReleasedFor parse h s input := by
  rintro i l hl hon (⟨ts, hlog⟩ | ⟨l', hl', hoff⟩)
  · exact givenUp_of_frees (hr i l hl) hon (frees_of_log parse hs hl hlog)
  · refine givenUp_of_frees (hr i l hl) hon ?_
    obtain ⟨l₀, hl₀, ⟨-, hstep⟩ | ⟨-, hopens⟩⟩ := stepped_from parse hs input hl'
    · obtain rfl : l = l₀ := Option.some.inj (hl.symm.trans hl₀)
      cases hstep with
      | same => exact absurd hon (by simp [hoff])
      | acts =>
        have : l.active = false := hoff
        exact absurd hon (by simp [this])
      | seen =>
        have : l.active = false := hoff
        exact absurd hon (by simp [this])
      | expires _ hexp => exact .expires hexp
      | yields hasks hown => exact .yields hasks hown
    · cases hopens with
      | create => cases hoff

/-! ## Every run -/

/-- What every step hands on. -/
structure TableInv (parse : Bytes → Option Json) (h : History) (s : LobbyServer) : Prop where
  gated : AllGated parse h s
  recorded : ∀ (i : Nat) (l : Lobby), s.lobbies[i]? = some l → Recorded h i l
  apart : CodesApart s.lobbies
  cap : ∀ ip, s.lobbies.countP (·.createdBy ip) ≤ 2

theorem tableInv_next (parse : Bytes → Option Json) {h : History} {s : LobbyServer} (hI : TableInv parse h s)
    (input : Input) : TableInv parse ((lobbyServer parse).taken s input :: h) ((lobbyServer parse).next s input).1 where
  gated := allGated_next hI.gated input
  recorded i l hl := recorded_next parse hI.gated hI.recorded input i l hl
  apart := apart_next parse hI.gated.indexed hI.apart input
  cap ip := cap_next parse hI.gated.indexed hI.cap input ip

theorem tableInv_start (parse : Bytes → Option Json) : TableInv parse [] .start where
  gated := gated_start
  recorded i l hl := by
    rw [start_lobby hl]
    exact ⟨fun hc => (by cases hc), fun _ => ⟨rfl, rfl, rfl⟩, fun hc => (by cases hc), fun hc => by cases hc⟩
  apart i j l m hl _ hon := by
    rw [start_lobby hl] at hon
    cases hon
  cap ip := by
    have hnone : LobbyServer.start.lobbies.countP (·.createdBy ip) = 0 := by
      apply List.countP_eq_zero.2
      intro l hl
      obtain ⟨i, -, rfl⟩ := List.mem_map.1 hl
      exact Bool.false_ne_true
    omega

theorem tableInv_run (parse : Bytes → Option Json) (inputs : List Input) :
    TableInv parse ((lobbyServer parse).hist .start [] inputs) ((lobbyServer parse).run .start inputs) :=
  Machine.inv_of_steps (TableInv parse) (fun _ _ input hI _ => tableInv_next parse hI input) (tableInv_start parse)
    Machine.meets_true

theorem TableInv.tableOk {parse : Bytes → Option Json} {h : History} {s : LobbyServer} (hI : TableInv parse h s) :
    TableOk s where
  apart := hI.apart
  shaped l hl hon := by
    obtain ⟨i, hi⟩ := List.getElem?_of_mem hl
    exact (hI.recorded i l hi).shaped hon
  cleared l hl hoff := by
    obtain ⟨i, hi⟩ := List.getElem?_of_mem hl
    obtain ⟨hcode, hhash, htitle⟩ := (hI.recorded i l hi).bare hoff
    obtain ⟨hsecret, hempty⟩ := (hI.gated.gated i l hi).inactive hoff
    exact ⟨hcode, hsecret, hhash, htitle, hempty⟩
  cap := hI.cap

/-- In every run the table is well formed, and an active lobby is given up for one of the
three reasons only. -/
theorem lobby_table (parse : Bytes → Option Json) (inputs : List Input) :
    TableOk ((lobbyServer parse).run .start inputs) ∧
      (lobbyServer parse).Meets (ReleasedFor parse) .start [] inputs := by
  refine ⟨(tableInv_run parse inputs).tableOk, ?_⟩
  exact Machine.meets_of_inv (TableInv parse) (fun _ _ input hI _ => tableInv_next parse hI input)
    (fun _ _ input hI _ => releasedFor parse hI.gated.indexed hI.recorded input) (tableInv_start parse) Machine.meets_true

namespace Sample

/-- Somebody is in the lobby at 2 s, when a tick sees it, and still is at 93 s, when a
datagram arrives. -/
def waiting : List Input :=
  entering (ascii "A") ++
    [.housekeeping 0 2000 0, .datagram ⟨ascii "?", 0x0a000002, 50001, 93000, 0, [], secret⟩]

/-- It leaves, and the next tick follows. -/
def left : List Input := [.closed 0 1 true, .endStep 0 Session.Sample.tick, .housekeeping 0 93000 0]

end Sample

/-- A lobby opened at 1 s that has a member at 93 s is given up at 93 s: no tick has seen
anyone in it for longer, but it has not been empty for any time. -/
theorem given_up_when_left :
    (((lobbyServer (Sample.parse (ascii "A"))).run .start Sample.waiting).lobbies[0]?.map fun l =>
        (l.active, l.memberCount, l.createdAt)) = some (true, 1, 1000) ∧
      (((lobbyServer (Sample.parse (ascii "A"))).run .start (Sample.waiting ++ Sample.left)).lobbies[0]?.map
        (·.active)) = some false := by
  decide +kernel

end Sf4e.Server
