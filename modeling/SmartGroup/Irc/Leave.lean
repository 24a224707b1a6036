import SmartGroup.Irc.Presence
import SmartGroup.Irc.Receiver
import SmartGroup.Irc.Login

/-! What the leave of a user does to the cache, and which leaves can be handled. -/
namespace SmartGroup
open Bytes Sweep Machine

/-! A join and the leave of the same nick. -/

/-- The key under which a join files the gateway of a name. -/
def joinedGate (name : Str) : Str := replaceChar (gateOfName name) 95 32

/-- The join files the gateway under its own name unless that has an underscore. -/
theorem joinedGate_eq_iff {name : Str} : joinedGate name = gateOfName name ↔ 95 ∉ name.take 7 := by
  rw [← mark_mem_gateOfName]
  constructor
  · intro same member
    rw [← same] at member
    obtain ⟨b, -, replaced⟩ := List.mem_map.mp member
    split at replaced
    · cases replaced
    · contradiction
  · intro plain
    exact replaceChar_eq_self plain 32

namespace IRCDDBApp

section
variable {a : IRCDDBApp} {n addr : Str} {d : UInt8}

/-- The application after a join and the leave. -/
def visited (a : IRCDDBApp) (n : Str) (d : UInt8) (addr : Str) : IRCDDBApp :=
  (a.visit (.join n d addr)).visit (.leave n d)

theorem visited_gateAddr (user : (nickOf n d).take 2 ≠ str "u-") (server : (nickOf n d).take 2 ≠ str "s-")
    (k : Str) : (a.visited n d addr).cache.gateAddr[k]? =
      if gateOfName n = k then none
      else if addr ≠ [] ∧ joinedGate n = k then some addr else a.cache.gateAddr[k]? := by
  have left := visit_gateAddr (a.visit (.join n d addr)) k (.leave n d)
  have joined := visit_gateAddr a k (.join n d addr)
  simp only [Visit.effect, ne_eq, user, server, not_false_eq_true, true_and] at left joined
  unfold visited joinedGate
  split
  · rename_i own
    simpa [own] using left
  · rename_i other
    rw [if_neg other, Option.none_or] at left
    rw [Option.some.inj left]
    split
    · rename_i writes
      rw [if_pos writes] at joined
      exact Option.some.inj joined
    · rename_i silent
      rw [if_neg silent] at joined
      exact Option.some.inj joined

theorem visited_nameNick (user : (nickOf n d).take 2 ≠ str "u-") (server : (nickOf n d).take 2 ≠ str "s-")
    (noNick : a.cache.nameNick[n]? = none) :
    (a.visited n d addr).cache.nameNick = a.cache.nameNick := by
  have joined : (a.visit (.join n d addr)).cache.nameNick =
      (a.cache.updateName n (nickOf n d)).nameNick := by
    simp only [visit, userJoin, user, if_false, CacheManager.updateGate_nameNick]
  have left : (a.visited n d addr).cache.nameNick =
      (a.visit (.join n d addr)).cache.nameNick.erase n := by
    simp only [visited, visit, server, if_false, CacheManager.eraseGate, CacheManager.eraseName]
  rw [left, joined]
  apply Std.ExtTreeMap.ext_getElem?
  intro k
  rw [get_erase]
  split
  · rename_i own
    rw [← own, noNick]
  · rename_i other
    unfold CacheManager.updateName
    split
    · rfl
    · exact (get_insert _ n k _).trans (if_neg other)

end

/-- Joining and leaving again leaves the two maps as they were exactly when the gateway is
erased under the key under which it was filed. -/
theorem join_leave_iff (a : IRCDDBApp) {n : Str} {d : UInt8} (addr : Str)
    (user : (nickOf n d).take 2 ≠ str "u-") (server : (nickOf n d).take 2 ≠ str "s-")
    (noGate : a.cache.gateAddr[joinedGate n]? = none) (noNick : a.cache.nameNick[n]? = none) :
    ∃ tr s, exec step a [.userJoin (nickOf n d) n addr, .userLeave (nickOf n d)] = .ok (tr, s) ∧
      (s.cache.gateAddr = a.cache.gateAddr ∧ s.cache.nameNick = a.cache.nameNick ↔
        95 ∉ n.take 7 ∨ addr = [] ∧ a.cache.gateAddr[gateOfName n]? = none) := by
  obtain ⟨tr, ran⟩ := exec_total (fun a v => ⟨[], step_visit a v⟩) a [.join n d addr, .leave n d]
  refine ⟨tr, a.visited n d addr, ran, ?_⟩
  have gates (k : Str) : (a.visited n d addr).cache.gateAddr[k]? =
      if gateOfName n = k then none
      else if addr ≠ [] ∧ joinedGate n = k then some addr else a.cache.gateAddr[k]? :=
    visited_gateAddr user server k
  rw [and_iff_left (visited_nameNick user server noNick), ← joinedGate_eq_iff]
  constructor
  · intro same
    by_cases key : joinedGate n = gateOfName n
    · exact .inl key
    · refine .inr ⟨?_, ?_⟩
      · by_contra written
        have filed := gates (joinedGate n)
        rw [if_neg (Ne.symm key), if_pos ⟨written, rfl⟩, same, noGate] at filed
        cases filed
      · have erased := gates (gateOfName n)
        rwa [if_pos rfl, same] at erased
  · intro holds
    apply Std.ExtTreeMap.ext_getElem?
    intro k
    rw [gates]
    split
    · rename_i own
      rcases holds with key | ⟨-, absent⟩
      · rw [← own, ← key, noGate]
      · rw [← own, absent]
    · rename_i other
      refine if_neg ?_
      rintro ⟨written, filed⟩
      rcases holds with key | ⟨empty, -⟩
      · exact other (key.symm.trans filed)
      · exact written empty

/-- A user of letters and digits, who is not in the cache. -/
theorem join_leave_restores : ∃ tr s,
    exec step Sample.standby [.userJoin (str "n0call-1") (str "n0call") (str "44.0.0.1"),
        .userLeave (str "n0call-1")] = .ok (tr, s) ∧
      s.cache.gateAddr = Sample.standby.cache.gateAddr ∧
      s.cache.nameNick = Sample.standby.cache.nameNick := by
  obtain ⟨tr, s, ran, restored⟩ := join_leave_iff Sample.standby (n := str "n0call") (d := 49)
    (str "44.0.0.1") (by decide +kernel) (by decide +kernel) (by decide +kernel) (by decide +kernel)
  exact ⟨tr, s, ran, restored.mpr (.inl (by decide +kernel))⟩

/-- The address of a name with an underscore is left behind. -/
theorem join_leave_keeps_mark : ∃ tr s,
    exec step Sample.standby [.userJoin (str "n_call-1") (str "n_call") (str "44.0.0.1"),
        .userLeave (str "n_call-1")] = .ok (tr, s) ∧
      Sample.standby.cache.gateAddr[str "N CALL G"]? = none ∧
      s.cache.gateAddr[str "N CALL G"]? = some (str "44.0.0.1") := by
  obtain ⟨tr, ran⟩ := exec_total (fun a v => ⟨[], step_visit a v⟩) Sample.standby
    [.join (str "n_call") 49 (str "44.0.0.1"), .leave (str "n_call") 49]
  exact ⟨tr, _, ran, by decide +kernel, by decide +kernel⟩

end IRCDDBApp

/-! The leaves that the messages of the network report. -/

/-- The call as a step of the application; the other calls fill members that no step reads. -/
def AppCall.event (tm_isdst : Int) : AppCall → Option AppEvent
  | .setBestServer _ => none
  | .setCurrentNick _ => none
  | .userJoin nick name addr => some (.userJoin nick name addr)
  | .userLeave nick => some (.userLeave nick)
  | .msgChannel m => some (.msgChannel m tm_isdst)
  | .msgQuery m => some (.msgQuery m tm_isdst)
  | .setTopic _ => none
  | .setSendQ => some (.setSendQ true)

/-- The application when the protocol does something. -/
def IRCDDBApp.told (tm_isdst : Int) (a : IRCDDBApp) : ProtocolAct → Except AppFault IRCDDBApp
  | .app call =>
      match call.event tm_isdst with
      | none => .ok a
      | some e => (a.step e).map Prod.fst
  | _ => .ok a

namespace IRCProtocol

/-- The application after `processQueues`; `tm_isdst` has what a parse finds at each act. -/
def drive (p : IRCProtocol) (a : IRCDDBApp) (received : List IRCMessage) (rand : Nat) (tm_isdst : Nat → Int) :
    Except AppFault IRCDDBApp :=
  (p.processQueues received rand).2.2.zipIdx.foldlM (fun a act => a.told (tm_isdst act.2) act.1) a

/-- The nick that `userLeave` is called with, where the message leads to that. -/
def leaver (p : IRCProtocol) (m : IRCMessage) : Option Str :=
  if m.command = str "PART" then if Concerns p.channel m then some m.getPrefixNick else none
  else if m.command = str "KICK" then if Concerns p.channel m then m.params[1]? else none
  else if m.command = str "QUIT" then some m.getPrefixNick
  else none

/-- The messages that are gone through: those before a `KICK` of the client. -/
def handled (p : IRCProtocol) (received : List IRCMessage) : List IRCMessage :=
  received.takeWhile fun m => ¬p.Kicked m

/-- The two members that the handling of leaves reads. -/
def Same (p p' : IRCProtocol) : Prop := p'.channel = p.channel ∧ p'.currentNick = p.currentNick

section
variable {p p' : IRCProtocol} {m : IRCMessage} {nick : Str}

theorem Same.leaver (same : p.Same p') : p'.leaver m = p.leaver m := by
  unfold IRCProtocol.leaver
  rw [same.1]

theorem Same.handled (same : p.Same p') (received : List IRCMessage) :
    p'.handled received = p.handled received := by
  have kicked : ∀ m, p'.Kicked m ↔ p.Kicked m := by
    intro m
    simp only [Kicked, same.1, same.2]
  unfold IRCProtocol.handled
  congr 1
  funext m
  exact decide_eq_decide.mpr (not_congr (kicked m))

theorem receive_same : p.Same (p.receive m).1 := by
  unfold receive welcome joined pongReceived collision
  dsimp only
  repeat' split
  all_goals exact ⟨rfl, rfl⟩

theorem mem_tell : .userLeave nick ∈ p.tell m ↔ p.leaver m = some nick := by
  unfold tell IRCProtocol.leaver
  split
  · split <;> simp [eq_comm]
  · split
    · by_cases channel : Concerns p.channel m
      · match m.params with
        | [] => simp
        | [_] => simp
        | _ :: _ :: _ => simp [channel, eq_comm]
      · match m.params with
        | [] => simp
        | [_] => simp
        | _ :: _ :: _ => simp [channel]
    · split
      · simp [eq_comm]
      · repeat' split
        all_goals simp

/-- Nobody leaves with the commands that `receive` handles itself. -/
theorem leaver_eq_none (other : m.command = str "004" ∨ m.command = str "PING" ∨
    m.command = str "JOIN" ∨ m.command = str "PONG" ∨ m.command = str "433") : p.leaver m = none := by
  have leave : m.command ≠ str "PART" ∧ m.command ≠ str "KICK" ∧ m.command ≠ str "QUIT" := by
    rcases other with command | command | command | command | command <;> rw [command] <;> decide +kernel
  simp only [IRCProtocol.leaver, leave.1, leave.2.1, leave.2.2, if_false]

theorem not_mem_welcome : .app (.userLeave nick) ∉ (p.welcome m).2 := by
  unfold welcome
  repeat' split
  all_goals simp

theorem mem_receive : .app (.userLeave nick) ∈ (p.receive m).2 ↔ p.leaver m = some nick := by
  unfold receive
  split
  · rename_i command
    simp [leaver_eq_none (.inl command), not_mem_welcome]
  · split
    · rename_i command
      simp [leaver_eq_none (.inr (.inl command))]
    · split
      · rename_i command
        rw [leaver_eq_none (.inr (.inr (.inl command))), joined_acts]
        split <;> simp
      · split
        · rename_i command
          simp [leaver_eq_none (.inr (.inr (.inr (.inl command))))]
        · split
          · rename_i command
            simp [leaver_eq_none (.inr (.inr (.inr (.inr command))))]
          · simp only [List.mem_map, ProtocolAct.app.injEq, exists_eq_right, mem_tell]

theorem mem_receiveAll {received : List IRCMessage} : .app (.userLeave nick) ∈ (p.receiveAll received).2.2 ↔
    ∃ m ∈ p.handled received, p.leaver m = some nick := by
  induction received generalizing p with
  | nil => simp [receiveAll, IRCProtocol.handled]
  | cons m ms ih =>
      unfold receiveAll IRCProtocol.handled
      split
      · rename_i kicked
        simp [kicked]
      · rename_i other
        have same := receive_same (p := p) (m := m)
        have rest : .app (.userLeave nick) ∈ ((p.receive m).1.receiveAll ms).2.2 ↔
            ∃ m ∈ p.handled ms, p.leaver m = some nick := by
          rw [ih, same.handled]
          simp only [same.leaver]
        simp only [List.cons_append, List.mem_cons, List.mem_append, reduceCtorEq, false_or, mem_receive,
          rest, List.takeWhile_cons, other, not_false_eq_true, decide_true, if_true]
        simp [IRCProtocol.handled]

theorem not_mem_advance {rand : Nat} : .app (.userLeave nick) ∉ (p.advance rand).2.2 := by
  unfold advance
  repeat' split
  all_goals simp

theorem mem_processQueues {received : List IRCMessage} {rand : Nat} :
    .app (.userLeave nick) ∈ (p.processQueues received rand).2.2 ↔
      ∃ m ∈ p.handled received, p.leaver m = some nick := by
  have ticked : p.Same { p with timer := p.timer - 1 } := ⟨rfl, rfl⟩
  have got : .app (.userLeave nick) ∈ (IRCProtocol.receiveAll { p with timer := p.timer - 1 } received).2.2 ↔
      ∃ m ∈ p.handled received, p.leaver m = some nick := by
    rw [mem_receiveAll, ticked.handled]
    simp only [ticked.leaver]
  unfold processQueues
  dsimp only
  split
  · rw [List.mem_append, got]
    exact or_iff_left not_mem_advance
  · exact got

end

end IRCProtocol

namespace IRCDDBApp

theorem userLeave_completes (a : IRCDDBApp) (nick : Str) :
    (∃ a', a.userLeave nick = .ok a') ↔ 2 ≤ nick.length := by
  unfold userLeave
  split
  · rename_i server
    have two : (nick.take 2).length = 2 := by
      rw [server]
      rfl
    rw [List.length_take] at two
    exact iff_of_true ⟨_, rfl⟩ (by omega)
  · dsimp only
    split
    · rename_i short
      rw [List.getLast?_eq_none_iff, ← List.length_eq_zero_iff, List.length_dropLast] at short
      exact iff_of_false (fun ⟨a', failed⟩ => by cases failed) (by omega)
    · rename_i last found
      have longer : nick.dropLast ≠ [] := by
        intro empty
        rw [empty] at found
        cases found
      rw [← List.length_pos_iff, List.length_dropLast] at longer
      refine iff_of_true ?_ (by omega)
      split <;> exact ⟨_, rfl⟩

theorem told_completes (a : IRCDDBApp) (tm_isdst : Int) (act : ProtocolAct) :
    (∃ a', a.told tm_isdst act = .ok a') ↔
    ∀ nick, act = .app (.userLeave nick) → 2 ≤ nick.length := by
  cases act with
  | app call =>
      cases call with
      | userLeave nick =>
          simp only [ProtocolAct.app.injEq, AppCall.userLeave.injEq, forall_eq', ← a.userLeave_completes nick]
          simp only [told, AppCall.event, step]
          cases a.userLeave nick <;> simp [Except.map]
      | _ => exact iff_of_true ⟨_, rfl⟩ (by simp)
  | _ => exact iff_of_true ⟨_, rfl⟩ (by simp)

end IRCDDBApp

namespace IRCProtocol

/-- The acts of `processQueues` are gone through when none is a leave of a shorter nick. -/
theorem drive_completes_acts {p : IRCProtocol} {a : IRCDDBApp} {received : List IRCMessage} {rand : Nat}
    {tm_isdst : Nat → Int} : (∃ a', p.drive a received rand tm_isdst = .ok a') ↔
      ∀ nick, .app (.userLeave nick) ∈ (p.processQueues received rand).2.2 → 2 ≤ nick.length := by
  refine (Scan.reaches_iff fun a act => IRCDDBApp.told_completes a (tm_isdst act.2) act.1).trans ?_
  constructor
  · intro safe nick listed
    obtain ⟨i, here⟩ := List.mem_iff_getElem?.mp listed
    exact safe (.app (.userLeave nick), i) (List.mem_zipIdx_iff_getElem?.mpr here) nick rfl
  · intro safe act listed nick leaves
    exact safe nick (leaves ▸ List.fst_mem_of_mem_zipIdx listed)

/-- The handling of the messages completes exactly when every nick that leaves has two
characters. -/
theorem drive_completes_iff (p : IRCProtocol) (a : IRCDDBApp) (received : List IRCMessage) (rand : Nat)
    (tm_isdst : Nat → Int) : (∃ a', p.drive a received rand tm_isdst = .ok a') ↔
      ∀ m ∈ p.handled received, ∀ nick, p.leaver m = some nick → 2 ≤ nick.length := by
  refine drive_completes_acts.trans ?_
  constructor
  · intro safe m member nick leaves
    exact safe nick (mem_processQueues.mpr ⟨m, member, leaves⟩)
  · intro safe nick called
    obtain ⟨m, there, leaves⟩ := mem_processQueues.mp called
    exact safe m there nick leaves

/-- A user quits, and a stranger whose nick has no digit. -/
theorem leaves_handled : ∃ a', Sample.client.drive Sample.standby
    [⟨str "n0call-1!n0call@10.0.0.2", str "QUIT", []⟩, ⟨str "op!op@10.0.0.3", str "PART", [str "#dstar"]⟩]
      0 (fun _ => 0) = .ok a' :=
  (drive_completes_iff Sample.client Sample.standby _ 0 _).mpr (by decide +kernel)

/-- The receiver makes a message of a `QUIT` without a prefix, on which the handling fails. -/
theorem quit_without_prefix_fails :
    ∃ r, IRCReceiver.entry [str "QUIT\r\n"] = .ok r ∧ r.recvQ.map WireMessage.message ≠ [] ∧
      ∀ (p : IRCProtocol) (a : IRCDDBApp) (rand : Nat) (tm_isdst : Nat → Int),
        ¬∃ a', p.drive a (r.recvQ.map WireMessage.message) rand tm_isdst = .ok a' := by
  refine ⟨⟨.new, 0, [⟨[], str "QUIT", [], 0⟩]⟩, by decide +kernel, by decide +kernel, ?_⟩
  intro p a rand tm_isdst done
  have safe := drive_completes_acts.mp done
  have quits : str "QUIT" ≠ str "PART" ∧ str "QUIT" ≠ str "KICK" := by decide +kernel
  have handled : p.handled [⟨[], str "QUIT", []⟩] = [⟨[], str "QUIT", []⟩] := by
    simp [IRCProtocol.handled, Kicked, quits.2]
  have leaves : p.leaver ⟨[], str "QUIT", []⟩ = some [] := by
    simp only [leaver, quits.1, quits.2, if_false, if_true]
    decide
  have called : .app (.userLeave []) ∈ (p.processQueues [⟨[], str "QUIT", []⟩] rand).2.2 :=
    mem_processQueues.mpr ⟨_, handled ▸ List.mem_singleton_self _, leaves⟩
  exact absurd (safe [] called) (by decide)

end IRCProtocol
end SmartGroup
