import SmartGroup.Group.Ping
import SmartGroup.Group.Routing

/-! The pings that keep the paths to the gateways open, compared with the paths that a
stream from the reflector takes. -/
namespace SmartGroup
open Bytes Sweep

/-- The socket and the address of a packet for a repeater. -/
def Output.path : Output → Option (Nat × Str)
  | .writeHeader socket header => some (socket, header.yourAddress)
  | .writeAMBE socket data => some (socket, data.yourAddress)
  | _ => none

namespace GroupHandler

/-- A header from the reflector is sent, or the text that follows it, to the address. -/
def RelaysTo (env : Env) (g : GroupHandler) (header : HeaderData) (socket : Nat) (addr : Str) : Prop :=
  ∃ o ∈ (g.processReflectorHeader env header).2.2, o.path = some (socket, addr)

/-- The ping scan of a tick pings the address. -/
def Pings (env : Env) (ms : Nat) (g : GroupHandler) (socket : Nat) (addr : Str) : Prop :=
  .ping socket addr ∈ (g.clockPing env ms).2

/-- The first subscriber who is reached through the repeater. -/
def leadAt (env : Env) (g : GroupHandler) (rptr : Str) : Option Str :=
  (g.users.entries.find? fun entry => decide (env.findUserAddr entry.1 ≠ [] ∧
    (env.findUserData entry.1).rptr = rptr)).map (·.1)

section Fill
variable {env : Env} {g : GroupHandler} {k c : Str}

/-- The entry that a subscriber has for the repeater. -/
def offer (env : Env) (k : Str) (entry : Str × Nat) : Option SGSRepeater :=
  if env.findUserAddr entry.1 ≠ [] ∧ (env.findUserData entry.1).rptr = k then
    some (repeaterOf (env.findUserData entry.1))
  else none

theorem get_offered {r : Nat} (filed : g.users.find c = some r) (repeaters : OrdMap Str SGSRepeater) :
    (addRepeater env g.users (fun _ => false) repeaters (c, r))[k]? =
      repeaters[k]?.or (offer env k (c, r)) := by
  rw [addRepeater_eq filed, env.findUserData_addr]
  unfold offer
  by_cases unknown : env.findUserAddr c = []
  · simp [unknown]
  · by_cases there : (env.findUserData c).rptr ∈ repeaters
    · by_cases own : (env.findUserData c).rptr = k
      · subst own
        simp [unknown, there]
      · simp [unknown, there, own]
    · by_cases own : (env.findUserData c).rptr = k
      · subst own
        simp [unknown, there]
      · simp [unknown, there, own, get_insert]

/-- A repeater has the entry of its first listener. -/
theorem get_filled (empty : g.repeaters = ∅) :
    (g.fillRepeaters env fun _ => false)[k]? =
      (g.leadAt env k).map fun c => repeaterOf (env.findUserData c) := by
  have loop : ∀ (l : List (Str × Nat)) (repeaters : OrdMap Str SGSRepeater),
      (∀ c r, (c, r) ∈ l → g.users.find c = some r) →
      (l.foldl (addRepeater env g.users fun _ => false) repeaters)[k]? =
        repeaters[k]?.or (l.findSome? (offer env k)) := by
    intro l
    induction l with
    | nil =>
        intro repeaters _
        simp
    | cons entry l ih =>
        intro repeaters filed
        obtain ⟨c, r⟩ := entry
        rw [List.foldl_cons, ih _ fun c' r' member => filed c' r' (List.mem_cons_of_mem _ member),
          get_offered (filed c r List.mem_cons_self), Option.or_assoc, List.findSome?_cons]
        cases offer env k (c, r) <;> rfl
  have first : ∀ l : List (Str × Nat), l.findSome? (offer env k) =
      ((l.find? fun entry => decide (env.findUserAddr entry.1 ≠ [] ∧
        (env.findUserData entry.1).rptr = k)).map (·.1)).map fun c => repeaterOf (env.findUserData c) := by
    intro l
    induction l with
    | nil => rfl
    | cons entry l ih =>
        rw [List.findSome?_cons, List.find?_cons]
        by_cases reached : env.findUserAddr entry.1 ≠ [] ∧ (env.findUserData entry.1).rptr = k
        · simp [offer, reached]
        · rw [show offer env k entry = none from if_neg reached, ih]
          simp [reached]
  rw [fillRepeaters, loop _ _ fun c r => Users.mem_entries.mp, empty, first, leadAt]
  simp

theorem leadAt_known (lead : g.leadAt env k = some c) :
    g.users.Subscribed c ∧ env.findUserAddr c ≠ [] := by
  obtain ⟨⟨c', r⟩, found, rfl⟩ := Option.map_eq_some_iff.mp lead
  have known : env.findUserAddr c' ≠ [] ∧ (env.findUserData c').rptr = k := by
    simpa using List.find?_some found
  exact ⟨Users.subscribed_iff.mpr ⟨r, Users.mem_entries.mp (List.mem_of_find?_eq_some found)⟩, known.1⟩

end Fill

/-! Where a stream from the reflector goes. -/

section Relay
variable {env : Env} {g : GroupHandler} {socket : Nat} {addr : Str}

/-- The packet for an entry of the list has its address and the socket for that. -/
def AtEntry (env : Env) (g : GroupHandler) (socket : Nat) (addr : Str) : Prop :=
  ∃ (k : Str) (v : SGSRepeater), g.repeaters[k]? = some v ∧ socket = env.server (isIPv4 v.addr) ∧ addr = v.addr

theorem sendToRepeaters_path (header : HeaderData) {o : Output} (member : o ∈ g.sendToRepeaters env header)
    (path : o.path = some (socket, addr)) : AtEntry env g socket addr := by
  rcases List.mem_cons.mp member with rfl | written
  · cases path
  · obtain ⟨⟨k, v⟩, there, rfl⟩ := List.mem_map.mp written
    cases path
    exact ⟨k, v, mem_toList.mp there, rfl, rfl⟩

theorem sendAMBEToRepeaters_path (data : AMBEData) :
    (∃ o ∈ g.sendAMBEToRepeaters env data, o.path = some (socket, addr)) ↔ AtEntry env g socket addr := by
  constructor
  · intro ⟨o, member, path⟩
    rcases List.mem_cons.mp member with rfl | written
    · cases path
    · obtain ⟨⟨k, v⟩, there, rfl⟩ := List.mem_map.mp written
      cases path
      exact ⟨k, v, mem_toList.mp there, rfl, rfl⟩
  · intro ⟨k, v, there, own, same⟩
    subst own same
    exact ⟨_, List.mem_cons_of_mem _ (List.mem_map.mpr ⟨(k, v), mem_toList.mpr there, rfl⟩), rfl⟩

theorem sendFromText_path :
    (∃ o ∈ g.sendFromText env, o.path = some (socket, addr)) ↔ AtEntry env g socket addr := by
  constructor
  · intro ⟨o, member, path⟩
    obtain ⟨frame, -, sent⟩ := List.mem_flatMap.mp member
    exact (sendAMBEToRepeaters_path frame).mp ⟨o, sent, path⟩
  · intro entry
    obtain ⟨frame, member⟩ := List.exists_mem_of_ne_nil _
      (textFrames_ne_nil g.id (str "VIA SMARTGP " ++ g.groupCallsign) 20)
    obtain ⟨o, sent, path⟩ := (sendAMBEToRepeaters_path frame).mpr entry
    exact ⟨o, List.mem_flatMap.mpr ⟨frame, member, sent⟩, path⟩

/-- The stream goes to the address of each repeater's first listener. -/
theorem relaysTo_iff (idle : g.id = 0) (empty : g.repeaters = ∅) (header : HeaderData) :
    g.RelaysTo env header socket addr ↔ ∃ k c, g.leadAt env k = some c ∧
      socket = env.server (isIPv4 (env.findUserAddr c)) ∧ addr = env.findUserAddr c := by
  have entries : ∀ g' : GroupHandler, g'.repeaters = g.fillRepeaters env (fun _ => false) →
      (AtEntry env g' socket addr ↔ ∃ k c, g.leadAt env k = some c ∧
        socket = env.server (isIPv4 (env.findUserAddr c)) ∧ addr = env.findUserAddr c) := by
    intro g' filled
    simp only [AtEntry, filled, get_filled empty, Option.map_eq_some_iff]
    constructor
    · intro ⟨k, v, ⟨c, lead, own⟩, socket, addr⟩
      subst own
      rw [repeaterOf, env.findUserData_addr] at socket addr
      exact ⟨k, c, lead, socket, addr⟩
    · intro ⟨k, c, lead, socket, addr⟩
      refine ⟨k, _, ⟨c, lead, rfl⟩, ?_, ?_⟩ <;> rwa [repeaterOf, env.findUserData_addr]
  simp only [RelaysTo, processReflectorHeader, idle, ne_eq, not_true_eq_false, if_false, List.mem_append,
    or_and_right, exists_or, sendFromText_path]
  refine (or_iff_right_of_imp ?_).trans (entries _ (by rfl))
  intro ⟨o, member, path⟩
  split at member
  · cases member
  · exact sendToRepeaters_path _ member path

end Relay

/-! Which addresses are pinged. -/

/-- The addresses collected after the entries gone through. -/
def Collected (env : Env) (done : List (Str × Nat)) (addresses : OrdMap Str Unit) : Prop :=
  ∀ addr, addr ∈ addresses ↔ addr ≠ [] ∧ ∃ entry ∈ done, env.findUserAddr entry.1 = addr

theorem Collected.turn {env : Env} {t : Users} {s : Scan} {done : List (Str × Nat)} {outs : List Output}
    {c : Str} {r : Nat} (filed : t.find c = some r) (scanned : Scanned env t done outs s.users)
    (sofar : Collected env done s.addresses) :
    Collected env (done ++ [(c, r)]) (scanUser env s (c, r)).1.addresses := by
  obtain ⟨u, held, rfl⟩ := Users.find_cell filed
  obtain ⟨u', held', named, -⟩ := scanned.like.cell held
  intro addr
  simp only [List.mem_append, List.mem_singleton, or_and_right, exists_or, exists_eq_left, and_or_left]
  rw [← sofar addr]
  unfold scanUser
  simp only [held', named]
  split
  · rename_i unknown
    have kept : addr ∈ s.addresses ↔ addr ∈ s.addresses ∨ addr ≠ [] ∧ env.findUserAddr u.callsign = addr := by
      refine (or_iff_left_of_imp ?_).symm
      intro both
      exact absurd (both.2.symm.trans unknown) both.1
    split <;> exact kept
  · rename_i known
    rw [Std.ExtTreeMap.mem_insert, Std.LawfulEqCmp.compare_eq_iff_eq, or_comm]
    refine or_congr_right ⟨?_, And.right⟩
    intro own
    exact ⟨own ▸ known, own⟩

theorem scan_collected (env : Env) (g : GroupHandler) :
    Collected env g.users.entries (forEach (scanUser env) ⟨g.users, ∅⟩ g.users.entries).1.addresses := by
  have both : Scanned env g.users g.users.entries (forEach (scanUser env) ⟨g.users, ∅⟩ g.users.entries).2
        (forEach (scanUser env) ⟨g.users, ∅⟩ g.users.entries).1.users ∧
      Collected env g.users.entries (forEach (scanUser env) ⟨g.users, ∅⟩ g.users.entries).1.addresses := by
    refine forEach_progress (S := fun done outs (s : Scan) =>
      Scanned env g.users done outs s.users ∧ Collected env done s.addresses) ?_ ?_
    · exact ⟨⟨Removed.start _ _, fun _ => rfl, fun _ _ held _ => held⟩, by simp [Collected]⟩
    · intro done entry rest outs s split sofar
      have filed := Users.mem_entries.mp (show entry ∈ g.users.entries by rw [split]; simp)
      exact ⟨sofar.1.turn filed, sofar.2.turn filed sofar.1⟩
  exact both.2

theorem pings_iff {env : Env} {ms : Nat} {g : GroupHandler} (fires : g.pingTimer.fires ms)
    (socket : Nat) (addr : Str) : g.Pings env ms socket addr ↔
      socket = pingServer env addr ∧ addr ≠ [] ∧ ∃ c, g.users.Subscribed c ∧ env.findUserAddr c = addr := by
  have taken : ((g.pingTimer.clock ms).isRunning && (g.pingTimer.clock ms).hasExpired) = true := fires
  have silent : ∀ o ∈ (forEach (scanUser env) ⟨g.users, ∅⟩ g.users.entries).2, o ≠ .ping socket addr := by
    refine forEach_outputs (fun s entry _ o sent => ?_) _
    rintro rfl
    unfold scanUser at sent
    dsimp only at sent
    split at sent
    · cases sent
    · split at sent
      · split at sent <;> simp at sent
      · cases sent
  simp only [Pings, clockPing, taken, if_true, List.mem_append, List.mem_map]
  constructor
  · intro sent
    rcases sent with scan | ⟨⟨addr', u⟩, there, same⟩
    · exact absurd rfl (silent _ scan)
    · cases same
      have known := (scan_collected env g addr').mp (Std.ExtTreeMap.mem_iff_isSome_getElem?.mpr (by rw [mem_toList.mp there]; rfl))
      obtain ⟨named, ⟨c, r⟩, member, found⟩ := known
      exact ⟨rfl, named, c, Users.subscribed_iff.mpr ⟨r, Users.mem_entries.mp member⟩, found⟩
  · intro ⟨own, named, c, subscribed, found⟩
    obtain ⟨r, filed⟩ := Users.subscribed_iff.mp subscribed
    have there := (scan_collected env g addr).mpr ⟨named, (c, r), Users.mem_entries.mpr filed, found⟩
    obtain ⟨u, held⟩ := Option.isSome_iff_exists.mp (Std.ExtTreeMap.mem_iff_isSome_getElem?.mp there)
    exact .inr ⟨(addr, u), mem_toList.mpr held, by rw [own]⟩

/-- The sockets agree in a single stack, and on an address that has either dots or colons. -/
theorem server_agrees_iff (env : Env) (addr : Str) :
    env.server (isIPv4 addr) = pingServer env addr ↔ env.irc1 = none ∨ (46 ∈ addr ↔ 58 ∉ addr) := by
  simp only [Env.server, isIPv4, pingServer]
  cases env.irc1 with
  | none => simp
  | some irc1 => by_cases dots : 46 ∈ addr <;> by_cases colons : 58 ∈ addr <;> simp [dots, colons]

/-- Every path that a stream from the reflector takes is pinged exactly when the two tests
of an address agree on the address of each repeater's first listener. -/
theorem pings_cover_relays_iff {env : Env} {ms : Nat} {g : GroupHandler} (fires : g.pingTimer.fires ms)
    (idle : g.id = 0) (empty : g.repeaters = ∅) (header : HeaderData) :
    (∀ socket addr, g.RelaysTo env header socket addr → g.Pings env ms socket addr) ↔
      env.irc1 = none ∨ ∀ k c, g.leadAt env k = some c →
        (46 ∈ env.findUserAddr c ↔ 58 ∉ env.findUserAddr c) := by
  have paths : (∀ socket addr, g.RelaysTo env header socket addr → g.Pings env ms socket addr) ↔
      ∀ k c, g.leadAt env k = some c →
        env.server (isIPv4 (env.findUserAddr c)) = pingServer env (env.findUserAddr c) := by
    simp only [relaysTo_iff idle empty, pings_iff fires]
    constructor
    · intro cover k c lead
      exact (cover _ _ ⟨k, c, lead, rfl, rfl⟩).1
    · intro agree socket addr ⟨k, c, lead, own, same⟩
      subst own same
      obtain ⟨subscribed, known⟩ := leadAt_known lead
      exact ⟨agree k c lead, known, c, subscribed, rfl⟩
  rw [paths]
  simp only [server_agrees_iff]
  by_cases single : env.irc1 = none
  · simp [single]
  · simp [single]

section Stacks
open Sample

/-- A user is subscribed to the idle group. -/
def reachedUser : GroupHandler := { init config with users := Users.empty.login (.new userA 1800 0) }

/-- A dual stack in which the user has the given address. -/
def dualEnv (addr : String) : Env :=
  { env with
    irc0 := ⟨CacheManager.empty.updateUser userA (str "RPTR1  B") (str "RPTR1  G") (str addr) [], 7⟩
    irc1 := some ⟨.empty, 7⟩ }

theorem reachedUser_leads (addr : String) (k c : Str)
    (lead : reachedUser.leadAt (dualEnv addr) k = some c) : c = userA := by
  obtain ⟨subscribed, -⟩ := leadAt_known lead
  by_contra other
  have absent : reachedUser.users.find c = none := by
    simp [reachedUser, SGSUser.new, Ne.symm other]
  simp [Users.Subscribed, absent] at subscribed

/-- An IPv6 address is pinged on the socket that the audio takes. -/
theorem ipv6_covered : reachedUser.pingTimer.fires 10000 ∧ reachedUser.id = 0 ∧ reachedUser.repeaters = ∅ ∧
    ∀ socket addr, reachedUser.RelaysTo (dualEnv "2001:db8::1") (call userB smart 2) socket addr →
      reachedUser.Pings (dualEnv "2001:db8::1") 10000 socket addr := by
  have fires : reachedUser.pingTimer.fires 10000 := by decide +kernel
  refine ⟨fires, rfl, rfl, (pings_cover_relays_iff fires rfl rfl _).mpr (.inr ?_)⟩
  intro k c lead
  rw [reachedUser_leads _ k c lead]
  decide +kernel

/-- An IPv6 address that ends in an IPv4 one has dots and colons: it is pinged on the one
socket, and the audio takes the other. -/
theorem mapped_address_missed :
    reachedUser.RelaysTo (dualEnv "::ffff:44.0.0.1") (call userB smart 2) 0 (str "::ffff:44.0.0.1") ∧
      reachedUser.Pings (dualEnv "::ffff:44.0.0.1") 10000 1 (str "::ffff:44.0.0.1") ∧
      ¬reachedUser.Pings (dualEnv "::ffff:44.0.0.1") 10000 0 (str "::ffff:44.0.0.1") := by
  have pinged : (reachedUser.clockPing (dualEnv "::ffff:44.0.0.1") 10000).2 =
      [.ping 1 (str "::ffff:44.0.0.1")] := by decide +kernel
  refine ⟨(relaysTo_iff rfl rfl _).mpr ⟨str "RPTR1  B", userA, ?_, ?_, ?_⟩, ?_, ?_⟩
  · decide +kernel
  · decide +kernel
  · decide +kernel
  · simp [Pings, pinged]
  · simp [Pings, pinged]

end Stacks

end GroupHandler
end SmartGroup
