import Sf4e.Lib.Metering
import Sf4e.Server.Matchmaker
/-!
# The matchmaker's rate limit

`AllowMatchmaker` keeps a bucket for each address. Between two clearings of the
table an address gets no more answers in a window than its bucket holds and what
flows in, and what others ask makes no difference to it.
-/
open Sf4e.Lib Sf4e.Session

namespace Sf4e.Server

/-! ## One bucket -/

/-- What a bucket holds when a datagram comes. The first one finds it as it is. -/
def Bucket.refilled (b : Bucket) (now : UInt64) : ℚ :=
  if b.last ≠ 0 then min MATCHMAKER_BURST (b.tokens + ((now - b.last).toNat : ℚ) * MATCHMAKER_PER_SECOND / 1000)
  else b.tokens

/-- What a datagram does to its address's bucket, and whether it is let through. -/
def Bucket.spend (b : Bucket) (now : UInt64) : Bucket × Bool :=
  if b.refilled now < 1 then (⟨b.refilled now, now⟩, false) else (⟨b.refilled now - 1, now⟩, true)

/-- What a bucket may hold. -/
structure Bucket.Ok (b : Bucket) : Prop where
  nonneg : 0 ≤ b.tokens
  full : b.tokens ≤ 20

theorem Bucket.spend_last (b : Bucket) (now : UInt64) : (b.spend now).1.last = now := by
  unfold Bucket.spend
  split <;> rfl

/-- What is answered of datagrams that come to one bucket at these times. An empty one is not. -/
def Bucket.answers : Bucket → List (UInt64 × Bool) → List Bool
  | _, [] => []
  | b, (_, true) :: rest => false :: Bucket.answers b rest
  | b, (now, false) :: rest => (b.spend now).2 :: Bucket.answers (b.spend now).1 rest

theorem Bucket.refilled_ok {b : Bucket} (h : b.Ok) {now : UInt64} (hlast : b.last ≤ now) :
    0 ≤ b.refilled now ∧ b.refilled now ≤ 20 ∧
      b.refilled now ≤ b.tokens + 1 / 200 * ((now.toNat - b.last.toNat : ℕ) : ℚ) := by
  have hflow : (0 : ℚ) ≤ ((now.toNat - b.last.toNat : ℕ) : ℚ) := Nat.cast_nonneg _
  have htokens := h.nonneg
  have hfull := h.full
  unfold Bucket.refilled
  split
  · have hsub : (now - b.last).toNat = now.toNat - b.last.toNat := UInt64.toNat_sub_of_le _ _ hlast
    have hrate : ((now.toNat - b.last.toNat : ℕ) : ℚ) * MATCHMAKER_PER_SECOND / 1000 =
        1 / 200 * ((now.toNat - b.last.toNat : ℕ) : ℚ) := by
      unfold MATCHMAKER_PER_SECOND
      ring
    rw [hsub, hrate]
    refine ⟨le_min (by decide) (by linarith), min_le_left _ _, min_le_right _ _⟩
  · exact ⟨htokens, hfull, by linarith⟩

/-- A bucket pays for what is let through from what it held and what has flowed in. -/
theorem Bucket.spend_pays {b : Bucket} (h : b.Ok) {now : UInt64} (hlast : b.last ≤ now) :
    0 ≤ (b.spend now).1.tokens ∧ (b.spend now).1.tokens + spent ℚ (b.spend now).2 ≤ 20 ∧
      (b.spend now).1.tokens + spent ℚ (b.spend now).2 ≤
        b.tokens + 1 / 200 * ((now.toNat - b.last.toNat : ℕ) : ℚ) := by
  obtain ⟨hnonneg, hfull, hflow⟩ := Bucket.refilled_ok h hlast
  unfold Bucket.spend
  split
  · next hone =>
    simp only [spent, Bool.false_eq_true, if_false, add_zero]
    exact ⟨hnonneg, hfull, hflow⟩
  · next hone =>
    simp only [spent, if_true, sub_add_cancel]
    exact ⟨by linarith, hfull, hflow⟩

theorem Bucket.spend_ok {b : Bucket} (h : b.Ok) {now : UInt64} (hlast : b.last ≤ now) : (b.spend now).1.Ok := by
  obtain ⟨hnonneg, hfull, -⟩ := Bucket.spend_pays h hlast
  have hspent : 0 ≤ spent ℚ (b.spend now).2 := by
    cases (b.spend now).2
    · exact le_refl 0
    · exact zero_le_one
  exact ⟨hnonneg, by linarith⟩

/-! ## The table -/

namespace LobbyServer

/-- An address's bucket. One that has not asked yet has a full one. -/
def bucketOf (s : LobbyServer) (ip : UInt32) : Bucket := (s.buckets.find ip).getD ⟨MATCHMAKER_BURST, 0⟩

theorem allowMatchmaker_eq {s : LobbyServer} (h : s.buckets.length ≤ 50000) (ip : UInt32) (now : UInt64) :
    s.allowMatchmaker ip now =
      ({ s with buckets := s.buckets.insert ip ((s.bucketOf ip).spend now).1 }, ((s.bucketOf ip).spend now).2) := by
  have hkept : (if s.buckets.length > 50000 then [] else s.buckets) = s.buckets := if_neg (Nat.not_lt.2 h)
  unfold allowMatchmaker
  simp only [hkept]
  unfold Bucket.spend
  show (if (s.bucketOf ip).refilled now < 1 then _ else _) = _
  split <;> rfl

/-- A clearing leaves a table without buckets. -/
theorem allowMatchmaker_cleared {s : LobbyServer} (h : s.buckets.length > 50000) (ip : UInt32) (now : UInt64) :
    s.allowMatchmaker ip now = { s with buckets := [] }.allowMatchmaker ip now := by
  unfold allowMatchmaker
  dsimp only
  rw [if_pos h]
  rfl

theorem onCreate_buckets {s s' : LobbyServer} {req : Json} {r : CreateRequest} {d : Datagram} {out : List Output}
    {reply : Except JsonError Json} (h : s.onCreate req r d = some (s', out, reply)) : s'.buckets = s.buckets := by
  unfold onCreate at h
  dsimp only at h
  split at h
  · cases h
    rfl
  · split at h
    · cases h
      rfl
    · split at h
      · cases h
        rfl
      · cases h

theorem handleMatchmaker_buckets {s s' : LobbyServer} {req : Json} {d : Datagram} {out : List Output}
    {reply : Except JsonError Json} (h : s.handleMatchmaker req d = some (s', out, reply)) :
    s'.buckets = s.buckets := by
  unfold handleMatchmaker at h
  split at h
  · cases h
    rfl
  · split at h
    · cases h
      rfl
    · split at h
      · cases h
        rfl
      · dsimp only at h
        split_ifs at h
        · cases h
          rfl
        · split at h
          · cases h
            rfl
          · cases h
            rfl
          · exact onCreate_buckets h
        · cases h
          rfl
        · cases h
          rfl
        · cases h
          rfl

/-- What `ServeMatchmaker` finds in a datagram. -/
def requestOf (parse : Bytes → Option Json) (d : Datagram) : Option Json :=
  parse ((d.data.take 1499).takeWhile (· ≠ 0))

/-- The draws that come with a datagram suffice: the loop that looks for a free code ends. -/
def Drawn (parse : Bytes → Option Json) (s : LobbyServer) (d : Datagram) : Prop :=
  ∀ req, requestOf parse d = some req → (s.allowMatchmaker d.ip d.now).1.handleMatchmaker req d ≠ none

/-- Something is sent to the address that asked. -/
def answered (d : Datagram) (out : List Output) : Bool :=
  out.any fun o => match o with
    | .reply ip port _ => ip = d.ip && port = d.port
    | _ => false

theorem answered_append (d : Datagram) (out : List Output) (msg : Json) :
    answered d (out ++ [.reply d.ip d.port msg]) = true := by
  unfold answered
  rw [List.any_append]
  simp

/-- What a datagram does to the buckets, and whether it is answered: it is empty, or its code is
never found, and nothing happens; or its address pays and it is answered if it is let through. -/
theorem serveMatchmaker_cases (parse : Bytes → Option Json) {s : LobbyServer} (h : s.buckets.length ≤ 50000)
    (d : Datagram) :
    ((d.data = [] ∨ ¬ Drawn parse s d) ∧ (s.serveMatchmaker parse d).1.buckets = s.buckets ∧
      answered d (s.serveMatchmaker parse d).2 = false) ∨
    (d.data ≠ [] ∧
      (s.serveMatchmaker parse d).1.buckets = s.buckets.insert d.ip ((s.bucketOf d.ip).spend d.now).1 ∧
      answered d (s.serveMatchmaker parse d).2 = ((s.bucketOf d.ip).spend d.now).2) := by
  unfold serveMatchmaker
  by_cases hd : d.data = []
  · rw [if_pos hd]
    exact .inl ⟨.inl hd, rfl, rfl⟩
  · rw [if_neg hd]
    have hallow := allowMatchmaker_eq h d.ip d.now
    dsimp only
    cases hlet : ((s.bucketOf d.ip).spend d.now).2 with
    | false =>
      rw [hallow, hlet]
      exact .inr ⟨hd, rfl, rfl⟩
    | true =>
      have hpass : (!(s.allowMatchmaker d.ip d.now).2) = false := by rw [hallow, hlet]; rfl
      have hbuckets : (s.allowMatchmaker d.ip d.now).1.buckets =
          s.buckets.insert d.ip ((s.bucketOf d.ip).spend d.now).1 := by rw [hallow]
      rw [hpass, if_neg Bool.false_ne_true]
      cases hreq : parse ((d.data.take 1499).takeWhile (· ≠ 0)) with
      | none => exact .inr ⟨hd, hbuckets, answered_append d [] _⟩
      | some req =>
        dsimp only
        cases hserve : (s.allowMatchmaker d.ip d.now).1.handleMatchmaker req d with
        | none => exact .inl ⟨.inr fun hdrawn => hdrawn req hreq hserve, rfl, rfl⟩
        | some r =>
          obtain ⟨s', out, reply⟩ := r
          have hkept := handleMatchmaker_buckets hserve
          cases reply with
          | ok msg => exact .inr ⟨hd, hkept.trans hbuckets, answered_append d out _⟩
          | error e => exact .inr ⟨hd, hkept.trans hbuckets, answered_append d out _⟩

theorem onLobby_buckets (s : LobbyServer) (index : ℕ) (f : Lobby → Lobby × List Output) :
    (s.onLobby index f).1.buckets = s.buckets := by
  unfold onLobby
  split <;> rfl

end LobbyServer

/-! ## Runs -/

/-- The datagrams among the inputs. -/
def datagrams : List Input → List Datagram
  | [] => []
  | .datagram d :: rest => d :: datagrams rest
  | _ :: rest => datagrams rest

/-- The datagrams of a run, each with whether it is answered. -/
def answers (parse : Bytes → Option Json) : LobbyServer → List Input → List (Datagram × Bool)
  | _, [] => []
  | s, .datagram d :: rest =>
    (d, LobbyServer.answered d (s.serveMatchmaker parse d).2) :: answers parse (s.serveMatchmaker parse d).1 rest
  | s, i :: rest => answers parse ((lobbyServer parse).next s i).1 rest

/-- A datagram that comes while no clearing is due. -/
def Uncleared (s : LobbyServer) (i : Input) : Prop := ∀ d, i = .datagram d → s.buckets.length ≤ 50000

/-- A datagram whose draws suffice. -/
def DrawsSuffice (parse : Bytes → Option Json) (s : LobbyServer) (i : Input) : Prop :=
  ∀ d, i = .datagram d → LobbyServer.Drawn parse s d

/-- Times do not go back from one datagram to a later one. -/
def InOrder (is : List Input) : Prop := (datagrams is).Pairwise fun d d' => d.now ≤ d'.now

/-- What is answered of an address's datagrams. -/
def answeredTo (parse : Bytes → Option Json) (s : LobbyServer) (is : List Input) (ip : UInt32) : List Bool :=
  ((answers parse s is).filter fun e => e.1.ip = ip).map (·.2)

/-- When an address asks, and whether with an empty datagram. -/
def asks (is : List Input) (ip : UInt32) : List (UInt64 × Bool) :=
  ((datagrams is).filter fun d => d.ip = ip).map fun d => (d.now, d.data = [])

/-- How many of an address's datagrams from `start` on, over `width` milliseconds, are answered. -/
def countAnswered (parse : Bytes → Option Json) (s : LobbyServer) (is : List Input) (ip : UInt32) (start width : ℕ) : ℕ :=
  (answers parse s is).countP fun e =>
    e.1.ip = ip && e.2 && start ≤ e.1.now.toNat && e.1.now.toNat ≤ start + width

theorem next_buckets (parse : Bytes → Option Json) (s : LobbyServer) {i : Input} (h : ∀ d, i ≠ .datagram d) :
    ((lobbyServer parse).next s i).1.buckets = s.buckets := by
  cases i with
  | datagram d => exact absurd rfl (h d)
  | message => exact s.onLobby_buckets _ _
  | endStep => exact s.onLobby_buckets _ _
  | connecting => exact s.onLobby_buckets _ _
  | closed => exact s.onLobby_buckets _ _
  | housekeeping => exact s.onLobby_buckets _ _

theorem bucketOf_congr {s s' : LobbyServer} (h : s'.buckets = s.buckets) (ip : UInt32) :
    s'.bucketOf ip = s.bucketOf ip := by
  unfold LobbyServer.bucketOf
  rw [h]

theorem bucketOf_insert {s s' : LobbyServer} {ip : UInt32} {b : Bucket} (h : s'.buckets = s.buckets.insert ip b) :
    s'.bucketOf ip = b ∧ ∀ ip', ip' ≠ ip → s'.bucketOf ip' = s.bucketOf ip' := by
  unfold LobbyServer.bucketOf
  rw [h]
  refine ⟨?_, fun ip' hne => ?_⟩
  · rw [Assoc.find_insert_self]
    rfl
  · rw [Assoc.find_insert_ne _ _ hne]

/-- One address's datagrams draw on its bucket alone. -/
theorem metered (parse : Bytes → Option Json) (ip : UInt32) {is : List Input} {s : LobbyServer}
    {h : List (Taken LobbyServer Input Output)}
    (hclear : (lobbyServer parse).Meets (fun _ => Uncleared) s h is) (horder : InOrder is)
    (hok : (s.bucketOf ip).Ok) (hlast : ∀ d ∈ datagrams is, (s.bucketOf ip).last ≤ d.now) :
    Metered (20 : ℚ) (1 / 200) (s.bucketOf ip).tokens (s.bucketOf ip).last.toNat
      (((answers parse s is).filter fun e => e.1.ip = ip).map fun e => (e.1.now.toNat, e.2)) := by
  induction is generalizing s h with
  | nil => exact .nil
  | cons i rest ih =>
    by_cases hi : ∃ d, i = .datagram d
    · obtain ⟨d, rfl⟩ := hi
      have horder' : InOrder rest := (List.pairwise_cons.1 horder).2
      have hlater : ∀ d' ∈ datagrams rest, d.now ≤ d'.now := (List.pairwise_cons.1 horder).1
      have hlast' : ∀ d' ∈ datagrams rest, (s.bucketOf ip).last ≤ d'.now := fun d' hd' =>
        hlast d' (List.mem_cons_of_mem d hd')
      have hnow := hlast d List.mem_cons_self
      show Metered _ _ _ _ ((((d, LobbyServer.answered d (s.serveMatchmaker parse d).2) ::
        answers parse (s.serveMatchmaker parse d).1 rest).filter fun e => e.1.ip = ip).map _)
      -- a datagram of another address leaves this one's bucket as it is
      have ih := @ih (s.serveMatchmaker parse d).1 _ hclear.2 horder'
      rcases s.serveMatchmaker_cases parse (hclear.1 d rfl) d with ⟨-, hbuckets, hans⟩ | ⟨-, hbuckets, hans⟩
      · rw [bucketOf_congr hbuckets] at ih
        rw [hans]
        by_cases hip : d.ip = ip
        · rw [List.filter_cons_of_pos (by simpa using hip)]
          exact .idle (UInt64.le_iff_toNat_le.1 hnow) (ih hok hlast')
        · rw [List.filter_cons_of_neg (by simpa using hip)]
          exact ih hok hlast'
      · obtain ⟨hself, hother⟩ := bucketOf_insert hbuckets
        rw [hans]
        by_cases hip : d.ip = ip
        · subst hip
          rw [hself] at ih
          rw [List.filter_cons_of_pos (by simp)]
          obtain ⟨hnonneg, hfull, hflow⟩ := Bucket.spend_pays hok hnow
          have hrest := ih (Bucket.spend_ok hok hnow) (by rw [Bucket.spend_last]; exact hlater)
          rw [Bucket.spend_last] at hrest
          exact .spend (UInt64.le_iff_toNat_le.1 hnow) hnonneg hfull hflow hrest
        · rw [hother ip (Ne.symm hip)] at ih
          rw [List.filter_cons_of_neg (by simpa using hip)]
          exact ih hok hlast'
    · have hne : ∀ d, i ≠ .datagram d := fun d he => hi ⟨d, he⟩
      have hdatagrams : datagrams (i :: rest) = datagrams rest := by
        cases i <;> first | rfl | exact absurd rfl (hne _)
      have hanswers : answers parse s (i :: rest) = answers parse ((lobbyServer parse).next s i).1 rest := by
        cases i <;> first | rfl | exact absurd rfl (hne _)
      unfold InOrder at horder
      rw [hdatagrams] at horder hlast
      rw [hanswers]
      have hsame := bucketOf_congr (next_buckets parse s hne) ip
      rw [← hsame] at hok hlast ⊢
      exact ih hclear.2 horder hok hlast

theorem map_filter_cons {α β : Type} (f : α → β) (p : α → Prop) [DecidablePred p] (a : α) (l : List α) :
    ((a :: l).filter p).map f = if p a then f a :: (l.filter p).map f else (l.filter p).map f := by
  by_cases ha : p a
  · rw [List.filter_cons_of_pos (by simpa using ha), if_pos ha]
    rfl
  · rw [List.filter_cons_of_neg (by simpa using ha), if_neg ha]

/-- What an address is answered follows from its bucket and the times it asks at. -/
theorem answeredTo_eq (parse : Bytes → Option Json) (ip : UInt32) {is : List Input} {s : LobbyServer}
    {h h' : List (Taken LobbyServer Input Output)}
    (hclear : (lobbyServer parse).Meets (fun _ => Uncleared) s h is)
    (hdrawn : (lobbyServer parse).Meets (fun _ => DrawsSuffice parse) s h' is) :
    answeredTo parse s is ip = (s.bucketOf ip).answers (asks is ip) := by
  induction is generalizing s h h' with
  | nil => rfl
  | cons i rest ih =>
    have ih := ih hclear.2 hdrawn.2
    by_cases hi : ∃ d, i = .datagram d
    · obtain ⟨d, rfl⟩ := hi
      have hsplit : answeredTo parse s (.datagram d :: rest) ip = if d.ip = ip then
          LobbyServer.answered d (s.serveMatchmaker parse d).2 :: answeredTo parse (s.serveMatchmaker parse d).1 rest ip
          else answeredTo parse (s.serveMatchmaker parse d).1 rest ip :=
        map_filter_cons Prod.snd (fun e : Datagram × Bool => e.1.ip = ip)
          (d, LobbyServer.answered d (s.serveMatchmaker parse d).2) (answers parse (s.serveMatchmaker parse d).1 rest)
      have hasks : asks (.datagram d :: rest) ip =
          if d.ip = ip then (d.now, decide (d.data = [])) :: asks rest ip else asks rest ip :=
        map_filter_cons (fun d : Datagram => (d.now, decide (d.data = []))) (fun d => d.ip = ip) d _
      have ih : answeredTo parse (s.serveMatchmaker parse d).1 rest ip =
        ((s.serveMatchmaker parse d).1.bucketOf ip).answers (asks rest ip) := ih
      rw [hsplit, hasks, ih]
      rcases s.serveMatchmaker_cases parse (hclear.1 d rfl) d with ⟨hempty, hbuckets, hans⟩ | ⟨hfull, hbuckets, hans⟩
      · have hempty : d.data = [] := hempty.resolve_right fun hn => hn (hdrawn.1 d rfl)
        rw [bucketOf_congr hbuckets, hans, decide_eq_true hempty]
        by_cases hip : d.ip = ip
        · rw [if_pos hip, if_pos hip]
          rfl
        · rw [if_neg hip, if_neg hip]
      · obtain ⟨hself, hother⟩ := bucketOf_insert hbuckets
        rw [hans, decide_eq_false hfull]
        by_cases hip : d.ip = ip
        · subst hip
          rw [if_pos rfl, if_pos rfl, hself]
          rfl
        · rw [if_neg hip, if_neg hip, hother ip (Ne.symm hip)]
    · have hne : ∀ d, i ≠ .datagram d := fun d he => hi ⟨d, he⟩
      have hsplit : answeredTo parse s (i :: rest) ip = answeredTo parse ((lobbyServer parse).next s i).1 rest ip := by
        cases i <;> first | rfl | exact absurd rfl (hne _)
      have hasks : asks (i :: rest) ip = asks rest ip := by
        cases i <;> first | rfl | exact absurd rfl (hne _)
      rw [hsplit, hasks, ih, bucketOf_congr (next_buckets parse s hne) ip]

/-- Between two clearings of the table no address is answered more often in a window than a full
bucket and what flows in allow, and what it is answered is the same whatever other addresses ask. -/
theorem matchmaker_rate_limit (parse : Bytes → Option Json) {s : LobbyServer} (hs : s.buckets = []) {is : List Input}
    (hclear : (lobbyServer parse).Meets (fun _ => Uncleared) s [] is) (ip : UInt32) :
    (InOrder is → ∀ start width : ℕ, (countAnswered parse s is ip start width : ℚ) ≤ 20 + (width : ℚ) / 200) ∧
    ∀ is', (lobbyServer parse).Meets (fun _ => Uncleared) s [] is' →
      (lobbyServer parse).Meets (fun _ => DrawsSuffice parse) s [] is →
      (lobbyServer parse).Meets (fun _ => DrawsSuffice parse) s [] is' →
      asks is' ip = asks is ip → answeredTo parse s is' ip = answeredTo parse s is ip := by
  refine ⟨fun horder start width => ?_, fun is' hclear' hdrawn hdrawn' hasks => ?_⟩
  · have hbucket : s.bucketOf ip = ⟨20, 0⟩ := by
      unfold LobbyServer.bucketOf
      rw [hs]
      rfl
    have hok : (s.bucketOf ip).Ok := by
      rw [hbucket]
      exact ⟨by decide, le_refl _⟩
    have hmetered := metered parse ip hclear horder hok fun d _ => by
      rw [hbucket]
      exact UInt64.zero_le
    have hcount : countAnswered parse s is ip start width =
        ((((answers parse s is).filter fun e => e.1.ip = ip).map fun e => (e.1.now.toNat, e.2))).countP
          (Metered.inWindow start width) := by
      unfold countAnswered
      rw [List.countP_map, List.countP_filter]
      refine List.countP_congr fun e _ => ?_
      simp only [Metered.inWindow, Function.comp_apply, Bool.and_eq_true, decide_eq_true_eq]
      tauto
    have hle : ((((answers parse s is).filter fun e => e.1.ip = ip).map fun e => (e.1.now.toNat, e.2)).countP
        (Metered.inWindow start width) : ℚ) ≤ 20 + 1 / 200 * (width : ℚ) :=
      hmetered.window_le (by norm_num) (by norm_num) hok.nonneg hok.full
    rw [hcount]
    linarith
  · rw [answeredTo_eq parse ip hclear' hdrawn', answeredTo_eq parse ip hclear hdrawn, hasks]

/-- A datagram that is no JSON. -/
def noise (ip : UInt32) (now : UInt64) : Datagram where
  data := [1]
  ip
  port := 5000
  now
  time := 0
  codes := []
  secret := ⟨List.replicate 32 ⟨0, Nat.succ_pos 15⟩, rfl⟩

/-- Two addresses, each asking once. -/
def twoAsk : List Input := [.datagram (noise 1 7), .datagram (noise 2 9)]

theorem twoAsk_uncleared :
    (lobbyServer fun _ => none).Meets (fun _ => Uncleared) .start [] twoAsk :=
  ⟨fun _ _ => by decide, fun _ _ => by decide +kernel, trivial⟩

theorem matchmaker_rate_limit_twoAsk :
    (InOrder twoAsk → ∀ start width : ℕ,
      (countAnswered (fun _ => none) .start twoAsk 1 start width : ℚ) ≤ 20 + (width : ℚ) / 200) ∧
    ∀ is', (lobbyServer fun _ => none).Meets (fun _ => Uncleared) .start [] is' →
      (lobbyServer fun _ => none).Meets (fun _ => DrawsSuffice fun _ => none) .start [] twoAsk →
      (lobbyServer fun _ => none).Meets (fun _ => DrawsSuffice fun _ => none) .start [] is' →
      asks is' 1 = asks twoAsk 1 → answeredTo (fun _ => none) .start is' 1 = answeredTo (fun _ => none) .start twoAsk 1 :=
  matchmaker_rate_limit (fun _ => none) rfl twoAsk_uncleared 1

end Sf4e.Server
