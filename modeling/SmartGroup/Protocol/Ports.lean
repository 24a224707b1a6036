import SmartGroup.Protocol.G2
import SmartGroup.Protocol.Wire
import SmartGroup.Support.Last

/-! The port table of `CG2ProtocolHandler`: packets to an address go to the port that it last
sent from. An empty datagram is taken for an error of the socket, and its port is not seen. -/
namespace SmartGroup
open Bytes Sweep Last

namespace G2ProtocolHandler

/-- The port of the address in the table, or the standard one. -/
def destinationPort (h : G2ProtocolHandler) (addr : Str) : Nat :=
  h.portmap[addr]?.getD (standardPort h.family)

def destination (h : G2ProtocolHandler) (bytes addr : Str) : Datagram :=
  ⟨bytes, addr, h.destinationPort addr⟩

/-- A packet is written `n` times, or to the first time that the socket refuses it. -/
def writeTimes (accepts : Nat → Bool) (packet : Datagram) : Nat → List Datagram × Bool
  | 0 => ([], true)
  | n + 1 =>
      if accepts n then
        let (packets, res) := writeTimes accepts packet n
        (packet :: packets, res)
      else ([packet], false)

/-- The packets that the socket is given, and the result. -/
def writeHeader (h : G2ProtocolHandler) (accepts : Nat → Bool) (header : HeaderData) :
    Try (List Datagram × Bool) := do
  let (buffer, length) ← header.getG2Data (List.replicate 60 0) 60 true
  return writeTimes accepts (h.destination (buffer.take length) header.yourAddress) 5

def writeAMBE (h : G2ProtocolHandler) (accepts : Nat → Bool) (data : AMBEData) :
    Try (List Datagram × Bool) := do
  let (buffer, length) ← data.getG2Data (List.replicate 40 0) 40
  return writeTimes accepts (h.destination (buffer.take length) data.yourAddress) 1

def writePing (h : G2ProtocolHandler) (accepts : Nat → Bool) (addr : Str) : List Datagram × Bool :=
  writeTimes accepts (h.destination (str "PING") addr) 1

/-- The handler after a sequence of calls of `readPackets`; `none` is a call that finds the
socket without data. -/
def readAll (h : G2ProtocolHandler) (received : List (Option Datagram)) : Try G2ProtocolHandler :=
  received.foldlM (fun h d => do
    let (_, h, _) ← h.readPackets d
    return h) h

/-- What the three writers send to the address goes to the port. -/
structure RepliesTo (h : G2ProtocolHandler) (addr : Str) (port : Nat) : Prop where
  header : ∀ accepts (header : HeaderData) packets res, header.yourAddress = addr →
    h.writeHeader accepts header = .ok (packets, res) →
    packets ≠ [] ∧ ∀ packet ∈ packets, packet.address = addr ∧ packet.port = port
  ambe : ∀ accepts (data : AMBEData) packets res, data.yourAddress = addr →
    h.writeAMBE accepts data = .ok (packets, res) →
    packets ≠ [] ∧ ∀ packet ∈ packets, packet.address = addr ∧ packet.port = port
  ping : ∀ accepts, (h.writePing accepts addr).1 ≠ [] ∧
    ∀ packet ∈ (h.writePing accepts addr).1, packet.address = addr ∧ packet.port = port

theorem writeTimes_ne_nil (accepts : Nat → Bool) (packet : Datagram) (n : Nat) :
    (writeTimes accepts packet (n + 1)).1 ≠ [] := by
  unfold writeTimes
  split <;> exact List.cons_ne_nil _ _

theorem eq_of_mem_writeTimes {accepts : Nat → Bool} {packet sent : Datagram} {n : Nat}
    (member : sent ∈ (writeTimes accepts packet n).1) : sent = packet := by
  induction n with
  | zero => exact absurd member List.not_mem_nil
  | succ n ih =>
      unfold writeTimes at member
      split at member
      · exact (List.mem_cons.mp member).elim id ih
      · exact List.mem_singleton.mp member

theorem of_bind_pure {α β : Type} {t : Try α} {f : α → β} {b : β}
    (done : (t >>= fun a => pure (f a)) = .ok b) : ∃ a, f a = b := by
  cases t with
  | error e => cases done
  | ok a => exact ⟨a, Except.ok.inj done⟩

/-- All three look the address up in the same way. -/
theorem repliesTo_iff {h : G2ProtocolHandler} {addr : Str} {port : Nat} :
    h.RepliesTo addr port ↔ h.destinationPort addr = port := by
  constructor
  · intro replies
    have sent : h.destination (str "PING") addr ∈ (h.writePing (fun _ => true) addr).1 :=
      List.mem_cons_self
    exact ((replies.ping fun _ => true).2 _ sent).2
  · rintro rfl
    have written (accepts : Nat → Bool) (bytes : Str) (n : Nat) :
        (writeTimes accepts (h.destination bytes addr) (n + 1)).1 ≠ [] ∧
          ∀ packet ∈ (writeTimes accepts (h.destination bytes addr) (n + 1)).1,
            packet.address = addr ∧ packet.port = h.destinationPort addr := by
      refine ⟨writeTimes_ne_nil _ _ _, fun packet member => ?_⟩
      rw [eq_of_mem_writeTimes member]
      exact ⟨rfl, rfl⟩
    refine ⟨fun accepts header packets res here sent => ?_, fun accepts data packets res here sent => ?_,
      fun accepts => written accepts _ 0⟩
    · subst here
      obtain ⟨packet, all⟩ := of_bind_pure sent
      have five := written accepts (packet.1.take packet.2) 4
      rwa [all] at five
    · subst here
      obtain ⟨packet, all⟩ := of_bind_pure sent
      have one := written accepts (packet.1.take packet.2) 0
      rwa [all] at one

/-! What the datagrams leave in the table. -/

theorem completes_classify {mem : List UInt8} (long : 15 ≤ mem.length) (length : Nat) :
    Completes (classify mem length) := by
  unfold classify
  split
  · rw [copy_ok (by omega), ok_bind]
    split
    · rw [byte_ok (by omega)]
      exact completes_ok _
    · exact completes_ok _
  · exact completes_ok _

/-- The table keeps a port for the sender, or the standard one is right for it. -/
theorem getD_savePort (h : G2ProtocolHandler) (addr : Str) :
    h.savePort.1[addr]?.getD (standardPort h.family) =
      if h.address = addr then h.port else h.destinationPort addr := by
  unfold savePort destinationPort
  by_cases here : h.address = addr
  · subst here
    cases known : h.portmap[h.address]? with
    | some was => by_cases same : was = h.port <;> simp [known, same]
    | none => by_cases standard : standardPort h.family = h.port <;> simp [known, standard]
  · cases h.portmap[h.address]? with
    | some was => by_cases same : was = h.port <;> simp [same, here, Std.ExtTreeMap.getElem?_insert]
    | none =>
        by_cases standard : standardPort h.family = h.port <;>
          simp [standard, here, Std.ExtTreeMap.getElem?_insert]

/-- What a call tells about the port of an address: nothing where the datagram is empty. -/
def told (addr : Str) (received : Option Datagram) : Option Nat :=
  received.bind fun d => if d.bytes ≠ [] ∧ d.address = addr then some d.port else none

theorem readPackets_told (h : G2ProtocolHandler) (received : Option Datagram) :
    ∃ again h' note, h.readPackets received = .ok (again, h', note) ∧ h'.family = h.family ∧
      ∀ addr, h'.destinationPort addr = (told addr received).getD (h.destinationPort addr) := by
  cases received with
  | none => exact ⟨_, _, _, rfl, rfl, fun _ => rfl⟩
  | some d =>
      by_cases empty : d.bytes = []
      · refine ⟨_, _, _, if_pos empty, rfl, fun addr => ?_⟩
        simp [told, empty, destinationPort]
      · have long : 15 ≤ (h.buffer.receive d.bytes).bytes.length := by
          rw [(h.buffer.receive d.bytes).full]
          decide
        obtain ⟨type, found⟩ := completes_classify long (min d.bytes.length g2BufferLength)
        simp only [readPackets, if_neg empty, found, ok_bind]
        refine ⟨_, _, _, rfl, rfl, fun addr => ?_⟩
        refine (getD_savePort _ addr).trans ?_
        by_cases here : d.address = addr <;> simp [told, empty, here, destinationPort]

theorem readAll_told (h : G2ProtocolHandler) (received : List (Option Datagram)) :
    ∃ h', h.readAll received = .ok h' ∧ h'.family = h.family ∧
      ∀ addr, h'.destinationPort addr = (lastOf (told addr) received).getD (h.destinationPort addr) := by
  induction received using List.reverseRecOn with
  | nil => exact ⟨h, rfl, rfl, fun _ => rfl⟩
  | append_singleton received d ih =>
      obtain ⟨h₁, run, family₁, ports₁⟩ := ih
      obtain ⟨again, h₂, note, step, family₂, ports₂⟩ := h₁.readPackets_told d
      refine ⟨h₂, ?_, family₂.trans family₁, fun addr => ?_⟩
      · unfold readAll at run ⊢
        rw [List.foldlM_append, run, ok_bind, List.foldlM_cons, step]
        rfl
      · rw [ports₂, ports₁, lastOf_snoc]
        cases told addr d <;> rfl

/-! The law. -/

/-- The source port of the last datagram from the address, or the standard port. -/
def lastPort (family : Family) (datagrams : List Datagram) (addr : Str) : Nat :=
  (lastOf (fun d => if d.address = addr then some d.port else none) datagrams).getD (standardPort family)

theorem lastPort_taken (family : Family) (received : List (Option Datagram)) (addr : Str) :
    lastPort family (received.reduceOption.filter (·.bytes ≠ [])) addr =
      (lastOf (told addr) received).getD (standardPort family) := by
  have flat : received.reduceOption = received.filterMap id := rfl
  rw [lastPort, flat, ← List.filterMap_eq_filter, lastOf_filterMap, lastOf_filterMap]
  congr 2
  funext d
  obtain _ | d := d
  · rfl
  · by_cases empty : d.bytes = [] <;> simp [told, empty]

/-- Replies go to the port of the last datagram from the address exactly when it is also
the port of the last one that is not empty. -/
theorem replies_follow_iff (family : Family) (received : List (Option Datagram)) (addr : Str) :
    ∃ h, (init family).readAll received = .ok h ∧
      (h.RepliesTo addr (lastPort family received.reduceOption addr) ↔
        lastPort family (received.reduceOption.filter (·.bytes ≠ [])) addr =
          lastPort family received.reduceOption addr) := by
  obtain ⟨h, run, family_kept, ports⟩ := (init family).readAll_told received
  refine ⟨h, run, ?_⟩
  have start : (init family).destinationPort addr = standardPort family := rfl
  rw [repliesTo_iff, ports, start, lastPort_taken]

/-- A gateway behind a new port sends an empty datagram first. -/
def movedGateway : List (Option Datagram) :=
  [some ⟨str "PONG", str "44.1.2.3", 40000⟩, some ⟨[], str "44.1.2.3", 40001⟩]

theorem empty_datagram_missed :
    ∃ h, (init .inet).readAll movedGateway = .ok h ∧
      lastPort .inet movedGateway.reduceOption (str "44.1.2.3") = 40001 ∧
      h.RepliesTo (str "44.1.2.3") 40000 ∧ ¬h.RepliesTo (str "44.1.2.3") 40001 := by
  obtain ⟨h, run, family, ports⟩ := (init .inet).readAll_told movedGateway
  have kept : h.destinationPort (str "44.1.2.3") = 40000 := by
    rw [ports]
    decide
  refine ⟨h, run, by decide, repliesTo_iff.mpr kept, fun moved => ?_⟩
  have other := repliesTo_iff.mp moved
  omega

end G2ProtocolHandler
end SmartGroup
